/-
**Sizing, reading and writing a file agree with one another.**

The three look for the file on their own, by a path that may go through links and over directories.
In a tree of files, directories and links they find the same one: what is written is sized and read
back, whatever was there before, and nothing else is touched; what cannot be written leaves
everything as it is.  Only a file that may be written and not read is not read back.

Main definitions:

* `FileTree.Plain` — a tree without special files.

Main results:

* `FileTree.Plain.write_ok` — **a write puts the data where the path leads**, and the path leads
  there before and after, however it is followed;
* `Machine.files_coherent` — **what is written is what is sized and read**.
-/

import Offload.Proofs.Files.Resolution
import Offload.Proofs.Machine.Frame

set_option relaxedAutoImplicit false
set_option autoImplicit false

namespace Offload

namespace FileTree

variable {t t' : FileTree} {p : Path} {d : Bytes} {loc : Location}

/-! ### Trees without special files -/

/-- Only regular files, directories and links stand in the tree. -/
def Plain (t : FileTree) : Prop := ∀ loc kind, t.entryAt? loc ≠ some (.special kind)

/-- A tree is plain if none of its entries is a special file. -/
theorem plain_of_entries (h : ∀ x ∈ t.entries, ∀ kind, x.2 ≠ .special kind) : t.Plain := by
  intro loc kind hentry
  rw [entryAt?] at hentry
  split at hentry
  · cases hentry
  · obtain ⟨before, after, hentries, -⟩ := List.lookup_eq_some_iff.1 hentry
    have hmem : (loc, Entry.special kind) ∈ t.entries := by
      rw [hentries]
      exact List.mem_append_right _ List.mem_cons_self
    exact h _ hmem kind rfl

/-- In a plain tree no path leads to a special file. -/
theorem Plain.resolve_ne (hplain : t.Plain) (p : Path) (loc : Location) (kind : Special) :
    t.resolve true p ≠ .ok ⟨loc, some (.special kind)⟩ := by
  intro hresolve
  have htarget : Target p loc t := ⟨_, hresolve, trivial⟩
  obtain ⟨-, -, -, hleads, -⟩ := htarget.leads rfl rfl (fun _ _ _ => rfl) id true
  cases hentry : t.entryAt? loc with
  | none =>
      rw [hentry, hresolve] at hleads
      cases hleads
  | some e =>
      rw [hentry, hresolve] at hleads
      cases hleads
      exact hplain loc kind hentry

/-- **A write puts the data where the path leads**, and nowhere else. -/
theorem Plain.write_ok (hplain : t.Plain) (h : t.write p d = .ok t') :
    ∃ loc, WritableAt p loc t ∧ loc ≠ [] ∧ t' = t.put loc (.file d) := by
  rcases write_ok_cases h with ⟨-, loc, kind, hspecial⟩ | hput
  · exact absurd hspecial (hplain.resolve_ne p loc kind)
  · exact hput

end FileTree

/-! ### Sizing, reading and writing -/

namespace Machine

open FileTree (WritableAt)

variable {σ : Type} {m m' : Machine σ} {p : Path} {d : Bytes} {len : Nat}

/-- A regular file has the length of its contents. -/
theorem fileSize_of_fileAt? (h : m.files.fileAt? p = some d) :
    (m.fileSize p).1 = .ok d.size := by
  have hsize : m.files.fileSize p = .ok d.size := FileTree.fileSize_eq_ok_iff.2 ⟨d, h, rfl⟩
  rcases hrun : m.fileSize p with ⟨r, m'⟩
  rcases (fileSize_spec hrun).2 with ⟨cause, herror, -⟩ | ⟨len, hlen, hr⟩
  · cases hsize.symm.trans herror
  · cases hsize.symm.trans hlen
    exact hr

/-- What reading a path comes to, in the words of the machine. -/
theorem readFile_eq (p : Path) (len : Nat) (m : Machine σ) :
    (m.readFile p len).1 = (m.files.readExact p len).mapError (.reading p) := by
  rcases hrun : m.readFile p len with ⟨r, m'⟩
  rcases (readFile_spec hrun).2 with ⟨cause, herror, hr⟩ | ⟨d, hd, hr⟩
  · rw [herror]
    exact hr
  · rw [hd]
    exact hr

/-- A regular file that may be read is read from its start, unless it ends too early. -/
theorem readFile_of_readable (h : m.files.fileAt? p = some d) (hread : m.files.Readable p)
    (len : Nat) :
    (len ≤ d.size → (m.readFile p len).1 = .ok (d.take len)) ∧
      (d.size < len → (m.readFile p len).1 = .error (.reading p .endedEarly)) := by
  rw [readFile_eq, FileTree.readExact_eq h hread len]
  refine ⟨fun hle => ?_, fun hlt => ?_⟩
  · rw [if_pos hle]
    rfl
  · rw [if_neg (Nat.not_le.2 hlt)]
    rfl

/-- A regular file that may not be read is not read. -/
theorem readFile_of_not_readable (h : m.files.fileAt? p = some d) (hread : ¬m.files.Readable p)
    (len : Nat) : (m.readFile p len).1 = .error (.reading p .permissionDenied) := by
  rw [readFile_eq, FileTree.readExact_of_not_readable h hread len]
  rfl

/-- A write to a plain tree puts the data where the path leads. -/
theorem writeFile_ok (hplain : m.files.Plain) (h : m.writeFile p d = (.ok (), m')) :
    ∃ loc, WritableAt p loc m.files ∧ loc ≠ [] ∧ m'.files = m.files.put loc (.file d) := by
  rcases writeFile_spec p d m with ⟨files, hwrite, -, hnoted⟩ | ⟨cause, -, herror, -⟩
  · rw [h] at hnoted
    obtain ⟨loc, hwritable, hnil, rfl⟩ := hplain.write_ok hwrite
    exact ⟨loc, hwritable, hnil, hnoted.files⟩
  · rw [h] at herror
    cases herror

/-- **What is written is what is sized and read.**  In a tree of files, directories and links, a
write succeeds exactly where the path leads to a regular file or to a free place for one, and the
file may be written or made there.  After that the path still leads there; the file there has the
length of the data and, if it may be read, as any file may unless the tree withholds it, is read
from its start as far as it goes, so that nothing is left of what was there before; and at every
other location stands what stood there.  A write that fails says what could not be written and
leaves the files alone, as sizing and reading always do. -/
theorem files_coherent (hplain : m.files.Plain) (p : Path) :
    (∀ d, (m.writeFile p d).1 = .ok () ↔ ∃ loc, WritableAt p loc m.files) ∧
    (∀ d m', m.writeFile p d = (.ok (), m') →
      (m'.fileSize p).1 = .ok d.size ∧
      ∃ loc,
        (∀ create, m.files.resolve create p = .ok ⟨loc, m.files.entryAt? loc⟩ ∧
          m'.files.resolve create p = .ok ⟨loc, some (.file d)⟩) ∧
        m'.files.entryAt? loc = some (.file d) ∧
        ((m.files.access loc).read = true →
          (∀ k, k ≤ d.size →
            ∃ found, (m'.readFile p k).1 = .ok found ∧ found.toList = d.toList.take k) ∧
          ∀ k, d.size < k → (m'.readFile p k).1 = .error (.reading p .endedEarly)) ∧
        ((m.files.access loc).read = false →
          ∀ k, (m'.readFile p k).1 = .error (.reading p .permissionDenied)) ∧
        m'.files.workDir = m.files.workDir ∧ m'.files.access = m.files.access ∧
        ∀ other, other ≠ loc → m'.files.entryAt? other = m.files.entryAt? other) ∧
    (∀ d e m', m.writeFile p d = (.error e, m') →
      (∃ cause, e = .writing d.size p cause) ∧ m'.files = m.files) ∧
    (m.fileSize p).2.files = m.files ∧
    ∀ k, (m.readFile p k).2.files = m.files := by
  refine ⟨fun d => ⟨fun h => ?_, fun ⟨loc, hwritable⟩ => ?_⟩, fun d m' h => ?_, fun d e m' h => ?_,
    (fileSize_spec rfl).1.files, fun k => (readFile_spec rfl).1.files⟩
  · obtain ⟨loc, hwritable, -⟩ := writeFile_ok hplain (Prod.ext h rfl)
    exact ⟨loc, hwritable⟩
  · rcases writeFile_spec p d m with ⟨files, -, hok, -⟩ | ⟨cause, herror, -⟩
    · exact hok
    · cases (hwritable.write d).symm.trans herror
  · obtain ⟨loc, hwritable, hnil, hfiles⟩ := writeFile_ok hplain h
    have hleads : ∀ create, m.files.resolve create p = .ok ⟨loc, m.files.entryAt? loc⟩ ∧
        m'.files.resolve create p = .ok ⟨loc, some (.file d)⟩ := fun create =>
      ⟨(hwritable.leads d create).2.1, hfiles ▸ (hwritable.leads d create).2.2⟩
    have hfound : m'.files.fileAt? p = some d := FileTree.fileAt?_of_leads (hleads false).2
    have haccess : m'.files.access = m.files.access := by
      rw [hfiles]
      rfl
    -- Writing does not change what may be done with the file.
    have hreadable : m'.files.Readable p ↔ (m.files.access loc).read = true := by
      rw [← haccess]
      exact FileTree.readable_iff (hleads false).2
    refine ⟨fileSize_of_fileAt? hfound, loc, hleads, ?_, fun hread => ⟨fun k hk => ?_, fun k => ?_⟩,
      fun hread k => ?_, ?_, haccess, fun other hother => ?_⟩
    · rw [hfiles]
      exact FileTree.entryAt?_put_self hnil _ _
    · exact ⟨_, (readFile_of_readable hfound (hreadable.2 hread) k).1 hk, Bytes.toList_take k d⟩
    · exact (readFile_of_readable hfound (hreadable.2 hread) k).2
    · refine readFile_of_not_readable hfound (fun hmay => ?_) k
      exact Bool.false_ne_true (hread.symm.trans (hreadable.1 hmay))
    · rw [hfiles]
      rfl
    · rw [hfiles]
      exact FileTree.entryAt?_put_of_ne hother _ _
  · rcases writeFile_spec p d m with ⟨files, -, hok, -⟩ | ⟨cause, -, herror, hnoted⟩
    · rw [h] at hok
      cases hok
    · rw [h] at herror hnoted
      exact ⟨⟨cause, Except.error.inj herror⟩, hnoted.files⟩

/-- A link to a link to a file that is not there: writing makes the file, and reading finds it. -/
theorem files_coherent_dangling :
    let files : FileTree :=
      { entries :=
          [([[97]], .link ⟨[108]⟩), ([[108]], .link ⟨[100, 47, 102]⟩), ([[100]], .directory)]
        workDir := [] }
    let m : Machine Unit := ⟨.empty, files, (), [], []⟩
    m.files.Plain ∧ ∃ m', m.writeFile ⟨[97]⟩ (.ofList [7, 8, 9]) = (.ok (), m') ∧
      (m'.fileSize ⟨[97]⟩).1 = .ok 3 ∧
      (∃ found, (m'.readFile ⟨[97]⟩ 2).1 = .ok found ∧ found.toList = [7, 8]) ∧
      m'.files.entryAt? [[100], [102]] = some (.file (.ofList [7, 8, 9])) ∧
      m'.files.entryAt? [[97]] = some (.link ⟨[108]⟩) := by
  intro files m
  have hplain : m.files.Plain := FileTree.plain_of_entries (by simp [m, files])
  have hwritable : WritableAt ⟨[97]⟩ [[100], [102]] m.files := ⟨rfl, Or.inl rfl, rfl⟩
  obtain ⟨hwrites, hcoherent, -⟩ := files_coherent hplain ⟨[97]⟩
  have hwrite := (hwrites (.ofList [7, 8, 9])).2 ⟨_, hwritable⟩
  obtain ⟨hsize, loc, hleads, hentry, hread, -, -, -, hother⟩ :=
    hcoherent (.ofList [7, 8, 9]) _ (Prod.ext hwrite rfl)
  have hloc : loc = [[100], [102]] := by
    have hsame := (hleads true).1.symm.trans hwritable.1
    simp only [Except.ok.injEq, FileTree.Spot.mk.injEq] at hsame
    exact hsame.1
  subst hloc
  exact ⟨hplain, _, Prod.ext hwrite rfl, hsize, (hread rfl).1 2 (by decide), hentry,
    (hother [[97]] (by decide)).trans rfl⟩

end Machine

end Offload
