/-
**Trees of files, and where a path leads.**

A tree holds files, directories, symbolic links and special files, each at its location: the names
from the root down to it.  A path is followed name by name.  A link on the way is replaced by what
it points to, at most forty times; `.` stays, `..` goes up, and a name that is followed by
something must be a directory.  Names are looked up only in directories that may be searched.

Main definitions:

* `Entry` — what stands at a location; `Access` — what may be done with it;
* `FileTree` — a tree with a working directory; `FileTree.entryAt?`, `FileTree.put`,
  `FileTree.removeBelow` look up and change entries, `FileTree.restrict` changes what may be done;
* `FileTree.walk` — following names;
* `FileTree.resolve` — where a path leads, to an entry or to a free place for one.

Main results:

* `FileTree.entryAt?_put_self`, `FileTree.entryAt?_put_of_ne` — **putting an entry changes that one
  location**.
-/

import Offload.Bytes
import Offload.Error.System
import Offload.Files.Path

set_option relaxedAutoImplicit false
set_option autoImplicit false

namespace Offload

/-- A special file. -/
inductive Special where
  /-- Reads as empty and takes any data. -/
  | null
  /-- Reads as zeros and takes any data. -/
  | zero
  /-- Reads as zeros and takes no data. -/
  | full
  deriving DecidableEq, Repr

/-- What stands at a location. -/
inductive Entry where
  | file (contents : Bytes)
  | directory
  | link (target : Path)
  | special (kind : Special)

/-- What the program may do with an entry.  Links are followed by whoever comes along, so that
nothing can be forbidden for them. -/
structure Access where
  read : Bool
  /-- Changing a file; making one, in a directory. -/
  write : Bool
  /-- Looking up names in a directory. -/
  search : Bool
  deriving DecidableEq, Repr

/-- Nothing is forbidden. -/
def Access.full : Access := ⟨true, true, true⟩

/-- The names from the root of a tree down to an entry. -/
abbrev Location := List (List UInt8)

/-- A tree of files: the entries below the root, the directory in which relative paths start, and
what may be done with the entry at a location, or with a file that is made there. -/
structure FileTree where
  entries : List (Location × Entry)
  workDir : Location
  access : Location → Access := fun _ => .full

namespace FileTree

/-! ### Entries -/

/-- The entry at a location.  The root is a directory. -/
def entryAt? (loc : Location) (t : FileTree) : Option Entry :=
  if loc = [] then some .directory else t.entries.lookup loc

/-- The entries with one more or one changed. -/
def putEntry (loc : Location) (e : Entry) : List (Location × Entry) → List (Location × Entry)
  | [] => [(loc, e)]
  | (l, old) :: rest => if l = loc then (loc, e) :: rest else (l, old) :: putEntry loc e rest

/-- The tree with an entry put at a location, in place of the one that may be there. -/
def put (loc : Location) (e : Entry) (t : FileTree) : FileTree :=
  { t with entries := putEntry loc e t.entries }

/-- The tree without the entry at a location and the entries below it. -/
def removeBelow (loc : Location) (t : FileTree) : FileTree :=
  { t with entries := t.entries.filter fun e => !loc.isPrefixOf e.1 }

/-- The tree with other access to a location. -/
def restrict (loc : Location) (access : Access) (t : FileTree) : FileTree :=
  { t with access := fun l => if l = loc then access else t.access l }

theorem lookup_putEntry_self (loc : Location) (e : Entry) (es : List (Location × Entry)) :
    (putEntry loc e es).lookup loc = some e := by
  induction es with
  | nil => simp [putEntry]
  | cons x es ih =>
      obtain ⟨l, old⟩ := x
      by_cases h : l = loc
      · simp [putEntry, h]
      · rw [putEntry, if_neg h, List.lookup_cons, ih]
        simp [beq_false_of_ne (Ne.symm h)]

theorem lookup_putEntry_of_ne {loc other : Location} (h : other ≠ loc) (e : Entry)
    (es : List (Location × Entry)) : (putEntry loc e es).lookup other = es.lookup other := by
  induction es with
  | nil => simpa [putEntry] using h
  | cons x es ih =>
      obtain ⟨l, old⟩ := x
      by_cases hl : l = loc
      · subst hl
        simp [putEntry, List.lookup_cons, beq_false_of_ne h]
      · rw [putEntry, if_neg hl, List.lookup_cons, List.lookup_cons, ih]

/-- The entry that was put is found. -/
theorem entryAt?_put_self {loc : Location} (h : loc ≠ []) (e : Entry) (t : FileTree) :
    (t.put loc e).entryAt? loc = some e := by
  rw [entryAt?, if_neg h]
  exact lookup_putEntry_self loc e t.entries

/-- At any other location nothing changes. -/
theorem entryAt?_put_of_ne {loc other : Location} (h : other ≠ loc) (e : Entry) (t : FileTree) :
    (t.put loc e).entryAt? other = t.entryAt? other := by
  simp only [entryAt?]
  split
  · rfl
  · exact lookup_putEntry_of_ne h e t.entries

/-! ### Following names -/

/-- Where a path leads: a location, and what stands there, if anything does. -/
structure Spot where
  location : Location
  entry : Option Entry

/-- The name that stays. -/
def dot : List UInt8 := [46]

/-- The name that goes up. -/
def dotDot : List UInt8 := [46, 46]

/-- The longest name. -/
def maxName : Nat := 255

/-- The longest path, with the null character at its end. -/
def maxPath : Nat := 4096

/-- The most links that are followed for one path. -/
def maxLinks : Nat := 40

/-- Follows names from a directory.  `slash` tells whether a slash stands after the last name,
`create` whether the last name may be that of a new file; then a slash after it is refused.  What
to do at a link is a parameter: it is given the directory of the link, the names of its target and
the remaining ones, and whether they end in a slash. -/
def walkNames (t : FileTree) (create : Bool)
    (onLink : Location → List (List UInt8) → Bool → Except IoError Spot) :
    Location → List (List UInt8) → Bool → Except IoError Spot
  | loc, [], _ => .ok ⟨loc, some .directory⟩
  | loc, name :: rest, slash =>
    if !(t.access loc).search then .error .permissionDenied
    else if name = dot then walkNames t create onLink loc rest slash
    else if name = dotDot then walkNames t create onLink loc.dropLast rest slash
    else if create && rest.isEmpty && slash then .error .isADirectory
    else if maxName < name.length then .error .nameTooLong
    else
      let here := loc ++ [name]
      match t.entryAt? here with
      -- A free place is where a file can be made, but nothing can stand below it.
      | none => if rest.isEmpty && !slash then .ok ⟨here, none⟩ else .error .notFound
      | some .directory => walkNames t create onLink here rest slash
      -- The names of the target come first, then those that were left.
      | some (.link target) =>
        onLink (if target.isAbsolute then [] else loc) (target.names ++ rest)
          (slash || (rest.isEmpty && target.endsInSlash))
      | some other =>
        if rest.isEmpty && !slash then .ok ⟨here, some other⟩ else .error .notADirectory

/-- Follows names from a directory, and at most `budget` links. -/
def walk (t : FileTree) (create : Bool) :
    Nat → Location → List (List UInt8) → Bool → Except IoError Spot
  | 0 => walkNames t create fun _ _ _ => .error .tooManyLinks
  | budget + 1 => walkNames t create (walk t create budget)

/-- Where a path leads; with `create`, where a file would be made for it. -/
def resolve (create : Bool) (p : Path) (t : FileTree) : Except IoError Spot :=
  if p.bytes.contains 0 then .error .nullInPath
  else if p.bytes.isEmpty then .error .notFound
  else if maxPath ≤ p.bytes.length then .error .nameTooLong
  else t.walk create maxLinks (if p.isAbsolute then [] else t.workDir) p.names p.endsInSlash

end FileTree

end Offload
