/-
**What sizing, reading and writing a file come to.**

A regular file can be sized, whether or not it may be read, and nothing else has a size.  If it may
be read it can be read as a whole.  Whether a file can be written depends on how many bytes are
written, but not on which.

Main definitions:

* `FileTree.fileAt?` — the contents of the regular file that a path leads to;
* `FileTree.Readable` — a path leads to something that may be read.

Main results:

* `FileTree.fileSize_eq_ok_iff` — sizing a regular file;
* `FileTree.readExact_eq`, `FileTree.readExact_of_not_readable` — reading one;
* `FileTree.size_readExact` — a read returns as many bytes as were asked for;
* `FileTree.write_of_size_eq` — **if some bytes can be written, so can any others of the same
  number**.
-/

import Offload.Files.Access

set_option relaxedAutoImplicit false
set_option autoImplicit false

namespace Offload.FileTree

variable {path : Path} {t t' : FileTree} {len : Nat} {d e : Bytes}

/-- The contents of the regular file that a path leads to. -/
def fileAt? (path : Path) (t : FileTree) : Option Bytes :=
  match t.resolve false path with
  | .ok ⟨_, some (.file contents)⟩ => some contents
  | _ => none

theorem fileSize_eq_ok_iff :
    t.fileSize path = .ok len ↔ ∃ d, t.fileAt? path = some d ∧ d.size = len := by
  rw [fileSize, fileAt?]
  rcases t.resolve false path with e | ⟨loc, - | contents | - | target | kind⟩ <;> simp

/-- The path leads to something that may be read. -/
def Readable (path : Path) (t : FileTree) : Prop :=
  ∃ loc entry, t.resolve false path = .ok ⟨loc, some entry⟩ ∧ (t.access loc).read = true

/-- Whether something may be read is said where the path leads. -/
theorem readable_iff {loc : Location} {entry : Entry}
    (h : t.resolve false path = .ok ⟨loc, some entry⟩) :
    t.Readable path ↔ (t.access loc).read = true := by
  refine ⟨fun ⟨loc', entry', hsame, hread⟩ => ?_, fun hread => ⟨loc, entry, h, hread⟩⟩
  cases h.symm.trans hsame
  exact hread

/-- Where the file of a path is. -/
theorem resolve_of_fileAt? (h : t.fileAt? path = some d) :
    ∃ loc, t.resolve false path = .ok ⟨loc, some (.file d)⟩ := by
  rw [fileAt?] at h
  rcases hresolve : t.resolve false path with e | ⟨loc, - | contents | - | target | kind⟩ <;>
    rw [hresolve] at h <;> cases h
  exact ⟨loc, rfl⟩

/-- A regular file that may be read is read from its start, as far as it goes. -/
theorem readExact_eq (h : t.fileAt? path = some d) (hread : t.Readable path) (len : Nat) :
    t.readExact path len = if len ≤ d.size then .ok (d.take len) else .error .endedEarly := by
  obtain ⟨loc, hresolve⟩ := resolve_of_fileAt? h
  rw [readExact, hresolve]
  exact if_pos ((readable_iff hresolve).1 hread)

/-- A regular file that may be read can be read as a whole. -/
theorem readExact_of_readable (h : t.fileAt? path = some d) (hread : t.Readable path) :
    t.readExact path d.size = .ok (d.take d.size) :=
  (readExact_eq h hread d.size).trans (if_pos (Nat.le_refl _))

/-- A regular file that may not be read is not read. -/
theorem readExact_of_not_readable (h : t.fileAt? path = some d) (hread : ¬t.Readable path)
    (len : Nat) : t.readExact path len = .error .permissionDenied := by
  obtain ⟨loc, hresolve⟩ := resolve_of_fileAt? h
  rw [readExact, hresolve]
  exact if_neg fun hmay => hread ((readable_iff hresolve).2 hmay)

/-- What was read may be read. -/
theorem readable_of_readExact (h : t.readExact path len = .ok d) : t.Readable path := by
  simp only [readExact] at h
  split at h
  · cases h
  · cases h
  · next loc entry hresolve =>
      split at h
      · next hread => exact ⟨loc, entry, hresolve, hread⟩
      · cases h

/-- If the whole of a regular file is not read, it may not be read. -/
theorem not_readable_of_error {cause : IoError} (h : t.fileAt? path = some d)
    (herror : t.readExact path d.size = .error cause) :
    ¬t.Readable path ∧ cause = .permissionDenied := by
  have hnot : ¬t.Readable path := by
    intro hread
    cases herror.symm.trans (readExact_of_readable h hread)
  exact ⟨hnot, Except.error.inj (herror.symm.trans (readExact_of_not_readable h hnot d.size))⟩

/-- An entry that is open gives as many bytes as were asked for. -/
theorem size_of_readExact_entry {entry : Entry} (h : entry.readExact len = .ok d) :
    d.size = len := by
  simp only [Entry.readExact] at h
  split at h
  · split at h
    · next hle =>
        cases h
        rw [Bytes.size_take, Nat.min_eq_left hle]
    · cases h
  · split at h
    · next hlen => cases h; exact hlen.symm
    · cases h
  · cases h
    exact Bytes.size_zeros len
  · split at h
    · next hlen => cases h; exact hlen.symm
    · cases h

/-- A read returns as many bytes as were asked for. -/
theorem size_readExact (h : t.readExact path len = .ok d) : d.size = len := by
  simp only [readExact] at h
  split at h
  · cases h
  · cases h
  · split at h
    · exact size_of_readExact_entry h
    · cases h

/-- **If some bytes can be written, so can any others of the same number.** -/
theorem write_of_size_eq (hsize : d.size = e.size) (h : t.write path d = .ok t') :
    ∃ t'', t.write path e = .ok t'' := by
  simp only [write] at h ⊢
  split at h
  · cases h
  · split at h
    · next hmay => exact ⟨_, if_pos hmay⟩
    · cases h
  · split at h
    · next hmay => exact ⟨_, if_pos hmay⟩
    · cases h
  · split at h
    · next hmay =>
        rw [if_pos hmay, ← hsize]
        exact ⟨t', h⟩
    · cases h
  · cases h

end Offload.FileTree
