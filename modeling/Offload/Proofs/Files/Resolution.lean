/-
**What a path looks at on its way.**

Following a path looks at some locations of the tree and at no others, and where it leads depends on
what stands at these alone.  So a file that is written changes where a path leads only if its
location is one of them; and the path that it was written to leads to it from then on.

Main definitions:

* `FileTree.seen` — the locations that are looked at when a path is followed;
* `FileTree.Target` — a path leads to a file, a special one perhaps, or to a free place for one;
* `FileTree.filled` — what stands at a place after data was written there;
* `FileTree.WritableAt` — a path leads to a regular file, or to a free place for one.

Main results:

* `FileTree.resolve_congr` — **only the locations that are seen matter**;
* `FileTree.Target.leads` — **a path that leads to a place for a file leads there still** when files
  are written there and where the path does not look;
* `FileTree.write_eq` — **writing changes the place where the path leads**, and nothing else;
* `FileTree.fileAt?_write` — **what is written to a path is found there**;
* `FileTree.write_ok_cases` — a write puts a regular file where the path leads, or does nothing.
-/

import Offload.Proofs.Files.Access

set_option relaxedAutoImplicit false
set_option autoImplicit false

namespace Offload.FileTree

variable {t t' : FileTree} {p : Path} {create : Bool} {loc base : Location} {d : Bytes}
  {e : Option Entry} {names : List (List UInt8)} {slash : Bool}

/-! ### What is seen -/

/-- The locations that are looked at when names are followed from a directory.  What is seen after a
link is a parameter, as in `walkNames`. -/
def seenNames (t : FileTree) (create : Bool)
    (onLink : Location → List (List UInt8) → Bool → List Location) :
    Location → List (List UInt8) → Bool → List Location
  | _, [], _ => []
  | loc, name :: rest, slash =>
    if !(t.access loc).search then []
    else if name = dot then seenNames t create onLink loc rest slash
    else if name = dotDot then seenNames t create onLink loc.dropLast rest slash
    else if create && rest.isEmpty && slash then []
    else if maxName < name.length then []
    else
      let here := loc ++ [name]
      here ::
        match t.entryAt? here with
        | some .directory => seenNames t create onLink here rest slash
        | some (.link target) =>
          onLink (if target.isAbsolute then [] else loc) (target.names ++ rest)
            (slash || (rest.isEmpty && target.endsInSlash))
        | _ => []

/-- The locations that are looked at when names are followed, and at most `budget` links. -/
def seenWalk (t : FileTree) (create : Bool) :
    Nat → Location → List (List UInt8) → Bool → List Location
  | 0 => seenNames t create fun _ _ _ => []
  | budget + 1 => seenNames t create (seenWalk t create budget)

/-- **The locations that are looked at when a path is followed**, with the one it leads to if it
leads anywhere. -/
def seen (create : Bool) (p : Path) (t : FileTree) : List Location :=
  if p.bytes.contains 0 then []
  else if p.bytes.isEmpty then []
  else if maxPath ≤ p.bytes.length then []
  else t.seenWalk create maxLinks (if p.isAbsolute then [] else t.workDir) p.names p.endsInSlash

/-! ### Only what is seen matters -/

/-- A way to follow names comes to the same in both trees if they agree on what it sees. -/
def SameWalk (t t' : FileTree)
    (onLink onLink' : Location → List (List UInt8) → Bool → Except IoError Spot)
    (sees sees' : Location → List (List UInt8) → Bool → List Location) : Prop :=
  ∀ base names slash, (∀ l ∈ sees base names slash, t'.entryAt? l = t.entryAt? l) →
    onLink' base names slash = onLink base names slash ∧
      sees' base names slash = sees base names slash

theorem sameWalk_names (haccess : t'.access = t.access)
    {onLink onLink' : Location → List (List UInt8) → Bool → Except IoError Spot}
    {sees sees' : Location → List (List UInt8) → Bool → List Location}
    (hlink : SameWalk t t' onLink onLink' sees sees') :
    SameWalk t t' (walkNames t create onLink) (walkNames t' create onLink')
      (seenNames t create sees) (seenNames t' create sees') := by
  intro base names slash
  induction names generalizing base with
  | nil => exact fun _ => ⟨rfl, rfl⟩
  | cons name rest ih =>
      rw [walkNames, walkNames, seenNames, seenNames, haccess]
      split
      · exact fun _ => ⟨rfl, rfl⟩
      · split
        · exact ih base
        · split
          · exact ih base.dropLast
          · split
            · exact fun _ => ⟨rfl, rfl⟩
            · split
              · exact fun _ => ⟨rfl, rfl⟩
              · intro hagree
                have hhere : t'.entryAt? (base ++ [name]) = t.entryAt? (base ++ [name]) :=
                  hagree _ List.mem_cons_self
                have hrest := fun l hl => hagree l (List.mem_cons_of_mem _ hl)
                simp only [hhere]
                -- Only a directory and a link lead on.
                cases hentry : t.entryAt? (base ++ [name]) with
                | none => exact ⟨rfl, rfl⟩
                | some entry =>
                    simp only [hentry] at hrest
                    cases entry with
                    | directory =>
                        obtain ⟨hwalk, hseen⟩ := ih _ hrest
                        exact ⟨hwalk, congrArg _ hseen⟩
                    | link target =>
                        obtain ⟨hwalk, hseen⟩ := hlink _ _ _ hrest
                        exact ⟨hwalk, congrArg _ hseen⟩
                    | file contents => exact ⟨rfl, rfl⟩
                    | special kind => exact ⟨rfl, rfl⟩

theorem sameWalk_walk (haccess : t'.access = t.access) (create : Bool) (budget : Nat) :
    SameWalk t t' (t.walk create budget) (t'.walk create budget) (t.seenWalk create budget)
      (t'.seenWalk create budget) := by
  induction budget with
  | zero => exact sameWalk_names haccess fun _ _ _ _ => ⟨rfl, rfl⟩
  | succ budget ih => exact sameWalk_names haccess ih

/-- **Where a path leads depends on nothing but what it sees**, and so does what it sees, in trees in
which the same may be searched. -/
theorem resolve_congr (hdir : t'.workDir = t.workDir) (haccess : t'.access = t.access)
    (hagree : ∀ l ∈ t.seen create p, t'.entryAt? l = t.entryAt? l) :
    t'.resolve create p = t.resolve create p ∧ t'.seen create p = t.seen create p := by
  rw [seen] at hagree
  rw [resolve, resolve, seen, seen, hdir]
  split
  · exact ⟨rfl, rfl⟩
  · split
    · exact ⟨rfl, rfl⟩
    · split
      · exact ⟨rfl, rfl⟩
      · next hnull hempty hlong =>
          rw [if_neg hnull, if_neg hempty, if_neg hlong] at hagree
          exact sameWalk_walk haccess create maxLinks _ _ _ hagree

/-! ### Places for files -/

/-- Nothing leads on from here: there is nothing yet, or a file, which may be a special one. -/
def Leaf : Option Entry → Prop
  | some .directory => False
  | some (.link _) => False
  | _ => True

theorem Leaf.cases (h : Leaf e) :
    e = none ∨ (∃ contents, e = some (.file contents)) ∨ ∃ kind, e = some (.special kind) := by
  rcases e with - | (contents | - | target | kind)
  · exact Or.inl rfl
  · exact Or.inr (Or.inl ⟨contents, rfl⟩)
  · exact absurd h id
  · exact absurd h id
  · exact Or.inr (Or.inr ⟨kind, rfl⟩)

/-- Two locations differ if something leads on from one of them and not from the other. -/
theorem ne_of_leaf {entry : Entry} {here : Location} (hhere : t.entryAt? here = some entry)
    (hloc : t.entryAt? loc = e) (he : Leaf e) (hnot : ¬Leaf (some entry)) : here ≠ loc := by
  rintro rfl
  rw [hhere] at hloc
  exact hnot (hloc ▸ he)

/-- The path leads to a file, or to a free place for one. -/
def Target (p : Path) (loc : Location) (t : FileTree) : Prop :=
  ∃ e, t.resolve true p = .ok ⟨loc, e⟩ ∧ Leaf e

/-- Following names leads to one place for a file in two trees, if they agree on what is seen on the
way.  The names are followed the first time as for a file that is to be made, and then in either
way. -/
def SameTarget (loc : Location) (t t' : FileTree)
    (onLink onLink' : Location → List (List UInt8) → Bool → Except IoError Spot)
    (sees sees' : Location → List (List UInt8) → Bool → List Location) : Prop :=
  ∀ base names slash e, onLink base names slash = .ok ⟨loc, e⟩ → Leaf e →
    (∀ l ∈ sees base names slash, l ≠ loc → t'.entryAt? l = t.entryAt? l) →
    t.entryAt? loc = e ∧ loc ≠ [] ∧ loc ∈ sees base names slash ∧
      onLink' base names slash = .ok ⟨loc, t'.entryAt? loc⟩ ∧
      sees' base names slash = sees base names slash

theorem sameTarget_names
    {onLink onLink' : Location → List (List UInt8) → Bool → Except IoError Spot}
    {sees sees' : Location → List (List UInt8) → Bool → List Location}
    (haccess : t'.access = t.access) (hleaf : Leaf (t.entryAt? loc) → Leaf (t'.entryAt? loc))
    (hlink : SameTarget loc t t' onLink onLink' sees sees') :
    SameTarget loc t t' (walkNames t true onLink) (walkNames t' create onLink')
      (seenNames t true sees) (seenNames t' create sees') := by
  intro base names slash e
  induction names generalizing base with
  | nil =>
      intro h he
      cases h
      exact absurd he id
  | cons name rest ih =>
      rw [walkNames, walkNames, seenNames, seenNames, haccess]
      split
      · intro h
        cases h
      · split
        · exact ih base
        · split
          · exact ih base.dropLast
          · split
            · intro h
              cases h
            · next hslash =>
                rw [Bool.true_and, Bool.and_eq_true, not_and, Bool.not_eq_true] at hslash
                have hcreate : ¬(create && rest.isEmpty && slash) = true := by
                  cases create <;> cases hrest : rest.isEmpty <;> simp [hslash, hrest]
                rw [if_neg hcreate, if_neg hcreate]
                split
                · intro h
                  cases h
                · intro h he hagree
                  simp only at h hagree ⊢
                  have hother := hagree (base ++ [name]) List.mem_cons_self
                  have hrest := fun l hl => hagree l (List.mem_cons_of_mem _ hl)
                  -- Only the last name may be that of a file; a directory or a link leads on, and
                  -- there is no place for a file where it stands.
                  cases hentry : t.entryAt? (base ++ [name]) with
                  | none =>
                      simp only [hentry] at h
                      split at h
                      · next hlast =>
                          cases h
                          rcases (hleaf (hentry ▸ he)).cases with
                            hentry' | ⟨contents', hentry'⟩ | ⟨kind', hentry'⟩ <;>
                            simp [hentry, hentry', hlast]
                      · cases h
                  | some entry =>
                      simp only [hentry] at h hrest hother ⊢
                      cases entry with
                      | directory =>
                          obtain ⟨hloc, hnil, hseen, hwalk, hsame⟩ := ih _ h he hrest
                          have hhere := hother (ne_of_leaf hentry hloc he id)
                          refine ⟨hloc, hnil, List.mem_cons_of_mem _ hseen, ?_⟩
                          simp only [hhere, hwalk, hsame, and_self]
                      | link target =>
                          obtain ⟨hloc, hnil, hseen, hwalk, hsame⟩ := hlink _ _ _ _ h he hrest
                          have hhere := hother (ne_of_leaf hentry hloc he id)
                          refine ⟨hloc, hnil, List.mem_cons_of_mem _ hseen, ?_⟩
                          simp only [hhere, hwalk, hsame, and_self]
                      | file contents =>
                          simp only at h
                          split at h
                          · next hlast =>
                              cases h
                              rcases (hleaf (hentry ▸ he)).cases with
                                hentry' | ⟨contents', hentry'⟩ | ⟨kind', hentry'⟩ <;>
                                simp [hentry, hentry', hlast]
                          · cases h
                      | special kind =>
                          simp only at h
                          split at h
                          · next hlast =>
                              cases h
                              rcases (hleaf (hentry ▸ he)).cases with
                                hentry' | ⟨contents', hentry'⟩ | ⟨kind', hentry'⟩ <;>
                                simp [hentry, hentry', hlast]
                          · cases h

theorem sameTarget_walk (haccess : t'.access = t.access) (create : Bool)
    (hleaf : Leaf (t.entryAt? loc) → Leaf (t'.entryAt? loc)) (budget : Nat) :
    SameTarget loc t t' (t.walk true budget) (t'.walk create budget) (t.seenWalk true budget)
      (t'.seenWalk create budget) := by
  induction budget with
  | zero => exact sameTarget_names haccess hleaf fun _ _ _ _ h => by cases h
  | succ budget ih => exact sameTarget_names haccess hleaf ih

/-- **A path that leads to a place for a file leads there still** when another file is put there, or
anything is put where the path does not look; and it sees the same on its way.  It makes no
difference whether it is followed in order to make a file. -/
theorem Target.leads (h : Target p loc t) (hdir : t'.workDir = t.workDir)
    (haccess : t'.access = t.access)
    (hagree : ∀ l ∈ t.seen true p, l ≠ loc → t'.entryAt? l = t.entryAt? l)
    (hleaf : Leaf (t.entryAt? loc) → Leaf (t'.entryAt? loc)) (create : Bool) :
    Leaf (t.entryAt? loc) ∧ loc ≠ [] ∧ loc ∈ t.seen true p ∧
      t'.resolve create p = .ok ⟨loc, t'.entryAt? loc⟩ ∧ t'.seen create p = t.seen true p := by
  obtain ⟨e, hresolve, he⟩ := h
  rw [resolve] at hresolve
  rw [seen] at hagree
  split at hresolve
  · cases hresolve
  · split at hresolve
    · cases hresolve
    · split at hresolve
      · cases hresolve
      · next hnull hempty hlong =>
          rw [if_neg hnull, if_neg hempty, if_neg hlong] at hagree
          rw [resolve, seen, seen, hdir, if_neg hnull, if_neg hnull, if_neg hnull,
            if_neg hempty, if_neg hempty, if_neg hempty, if_neg hlong, if_neg hlong, if_neg hlong]
          obtain ⟨hloc, hrest⟩ :=
            sameTarget_walk haccess create hleaf maxLinks _ _ _ _ hresolve he hagree
          exact ⟨hloc ▸ he, hrest⟩

/-! ### Writing and finding -/

/-- What stands at a place after data was written there, if it may be written.  A special file takes
what is written and keeps nothing, but for the one that takes nothing. -/
def filled (may : Bool) (d : Bytes) : Option Entry → Except IoError Entry
  | some .directory | some (.link _) => .error .isADirectory
  | some (.special kind) =>
    if may then if kind = .full ∧ d.size ≠ 0 then .error .noSpace else .ok (.special kind)
    else .error .permissionDenied
  | _ => if may then .ok (.file d) else .error .permissionDenied

theorem filled_cases {may : Bool} {entry : Entry} (h : filled may d e = .ok entry) :
    may = true ∧ (entry = .file d ∨ ∃ kind, e = some entry ∧ entry = .special kind) := by
  rcases e with - | (contents | - | target | kind) <;> simp only [filled] at h
  · split at h
    · next hmay => exact ⟨hmay, Or.inl (Except.ok.inj h).symm⟩
    · cases h
  · split at h
    · next hmay => exact ⟨hmay, Or.inl (Except.ok.inj h).symm⟩
    · cases h
  · cases h
  · cases h
  · split at h
    · next hmay =>
        split at h
        · cases h
        · cases h
          exact ⟨hmay, Or.inr ⟨_, rfl, rfl⟩⟩
    · cases h

theorem leaf_of_filled {may : Bool} {entry : Entry} (h : filled may d e = .ok entry) :
    Leaf (some entry) := by
  rcases (filled_cases h).2 with rfl | ⟨kind, -, rfl⟩
  · trivial
  · trivial

theorem putEntry_of_lookup {entry : Entry} {es : List (Location × Entry)}
    (h : es.lookup loc = some entry) : putEntry loc entry es = es := by
  induction es with
  | nil => cases h
  | cons x es ih =>
      obtain ⟨l, old⟩ := x
      rw [List.lookup_cons] at h
      by_cases hl : l = loc
      · subst hl
        simp only [beq_self_eq_true] at h
        rw [putEntry, if_pos rfl, Option.some_inj.1 h]
      · rw [beq_false_of_ne (Ne.symm hl)] at h
        rw [putEntry, if_neg hl, ih h]

/-- Putting an entry where it stands already changes nothing. -/
theorem put_of_entryAt? {entry : Entry} (hloc : loc ≠ []) (h : t.entryAt? loc = some entry) :
    t.put loc entry = t := by
  rw [entryAt?, if_neg hloc] at h
  rw [put, putEntry_of_lookup h]

/-- **Writing changes the place where the path leads**, and nothing else. -/
theorem write_eq (hloc : loc ≠ []) (hleads : t.resolve true p = .ok ⟨loc, t.entryAt? loc⟩)
    (d : Bytes) :
    t.write p d = (filled (t.mayWrite loc (t.entryAt? loc)) d (t.entryAt? loc)).map
      fun entry => t.put loc entry := by
  rw [write, hleads]
  rcases hentry : t.entryAt? loc with - | (contents | - | target | kind) <;> simp only [filled]
  · split <;> rfl
  · split <;> rfl
  · rfl
  · rfl
  · split
    · split
      · rfl
      · exact congrArg Except.ok (put_of_entryAt? hloc hentry).symm
    · rfl

theorem fileAt?_of_leads (h : t.resolve false p = .ok ⟨loc, some (.file d)⟩) :
    t.fileAt? p = some d := by
  rw [fileAt?, h]

/-- The path leads to a regular file that may be written, or to a free place where one may be
made. -/
def WritableAt (p : Path) (loc : Location) (t : FileTree) : Prop :=
  t.resolve true p = .ok ⟨loc, t.entryAt? loc⟩ ∧
    (t.entryAt? loc = none ∨ ∃ old, t.entryAt? loc = some (.file old)) ∧
    t.mayWrite loc (t.entryAt? loc) = true

/-- Where a regular file can be written, writing succeeds and puts it there. -/
theorem WritableAt.write (h : WritableAt p loc t) (d : Bytes) :
    t.write p d = .ok (t.put loc (.file d)) := by
  obtain ⟨hresolve, hentry, hmay⟩ := h
  rw [FileTree.write, hresolve]
  rcases hentry with hfree | ⟨old, hold⟩
  · rw [hfree] at hmay ⊢
    exact if_pos hmay
  · rw [hold] at hmay ⊢
    exact if_pos hmay

/-- The path leads there before and after a file is put there, whether it is followed in order to
make a file or not. -/
theorem WritableAt.leads (h : WritableAt p loc t) (d : Bytes) (create : Bool) :
    loc ≠ [] ∧ t.resolve create p = .ok ⟨loc, t.entryAt? loc⟩ ∧
      (t.put loc (.file d)).resolve create p = .ok ⟨loc, some (.file d)⟩ := by
  obtain ⟨hresolve, hentry, -⟩ := h
  have htarget : Target p loc t :=
    ⟨_, hresolve, by rcases hentry with hentry | ⟨old, hentry⟩ <;> rw [hentry] <;> trivial⟩
  obtain ⟨-, hnil, -, hbefore, -⟩ := htarget.leads rfl rfl (fun _ _ _ => rfl) id create
  have hfound := entryAt?_put_self hnil (.file d) t
  have hleaf : Leaf ((t.put loc (.file d)).entryAt? loc) := by
    rw [hfound]
    trivial
  obtain ⟨-, -, -, hafter, -⟩ := htarget.leads (workDir_put loc (.file d) t)
    (access_put loc (.file d) t) (fun l _ hl => entryAt?_put_of_ne hl _ t) (fun _ => hleaf) create
  exact ⟨hnil, hbefore, hfound ▸ hafter⟩

/-- **What writing can do to a tree**: put a regular file where the path leads; or nothing, if it
leads to a special file. -/
theorem write_ok_cases (h : t.write p d = .ok t') :
    (t' = t ∧ ∃ loc kind, t.resolve true p = .ok ⟨loc, some (.special kind)⟩) ∨
      ∃ loc, WritableAt p loc t ∧ loc ≠ [] ∧ t' = t.put loc (.file d) := by
  have hput : ∀ loc e, t.resolve true p = .ok ⟨loc, e⟩ → (e = none ∨ ∃ old, e = some (.file old)) →
      t.mayWrite loc e = true → WritableAt p loc t ∧ loc ≠ [] := by
    intro loc e hresolve he hmay
    have hleaf : Leaf e := by rcases he with rfl | ⟨old, rfl⟩ <;> trivial
    obtain ⟨-, hnil, -, hleads, -⟩ :=
      Target.leads ⟨e, hresolve, hleaf⟩ rfl rfl (fun _ _ _ => rfl) id true
    cases hresolve.symm.trans hleads
    exact ⟨⟨hresolve, he, hmay⟩, hnil⟩
  simp only [write] at h
  split at h
  · cases h
  · next loc hresolve =>
      split at h
      · next hmay =>
          obtain ⟨hwritable, hnil⟩ := hput loc _ hresolve (Or.inl rfl) hmay
          exact Or.inr ⟨loc, hwritable, hnil, (Except.ok.inj h).symm⟩
      · cases h
  · next loc old hresolve =>
      split at h
      · next hmay =>
          obtain ⟨hwritable, hnil⟩ := hput loc _ hresolve (Or.inr ⟨old, rfl⟩) hmay
          exact Or.inr ⟨loc, hwritable, hnil, (Except.ok.inj h).symm⟩
      · cases h
  · next loc kind hresolve =>
      split at h
      · split at h
        · cases h
        · exact Or.inl ⟨(Except.ok.inj h).symm, loc, kind, hresolve⟩
      · cases h
  · cases h

/-- **What is written to a path is found there**, unless the path leads to a special file, which
takes what is written and keeps nothing. -/
theorem fileAt?_write (h : t.write p d = .ok t') :
    t'.fileAt? p = some d ∨
      t' = t ∧ ∃ loc kind, t.resolve true p = .ok ⟨loc, some (.special kind)⟩ := by
  rcases write_ok_cases h with hspecial | ⟨loc, hwritable, -, rfl⟩
  · exact Or.inr hspecial
  · exact Or.inl (fileAt?_of_leads (hwritable.leads d false).2.2)

end Offload.FileTree
