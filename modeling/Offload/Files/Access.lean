/-
**Sizing, reading and writing files.**

The three things that staging and writing job data ask of the file system.  Only writing changes a
tree, and it changes no more than the one file that the path leads to.  A file that may not be read
can be sized all the same: that asks nothing but to find it.

Main definitions:

* `FileTree.fileSize` — the length of a file;
* `FileTree.readExact` — the first bytes of a file, all of those asked for; `Entry.readExact` —
  those of an entry that is open;
* `FileTree.write` — a file with new contents, made if there is none;
* `FileTree.remove?`, `FileTree.arrange` — taking entries away and setting up a tree.

Main results:

* `FileTree.workDir_write` — writing does not move the working directory.
-/

import Offload.Files.Tree

set_option relaxedAutoImplicit false
set_option autoImplicit false

namespace Offload

/-- The first `len` bytes of an entry that is open.  A directory can be opened, but not read: that
shows only when at least one byte is asked for. -/
def Entry.readExact (len : Nat) : Entry → Except IoError Bytes
  | .file contents => if len ≤ contents.size then .ok (contents.take len) else .error .endedEarly
  | .special .null => if len = 0 then .ok .empty else .error .endedEarly
  | .special _ => .ok (.zeros len)
  | _ => if len = 0 then .ok .empty else .error .isADirectory

namespace FileTree

/-- The length of the file that a path leads to. -/
def fileSize (p : Path) (t : FileTree) : Except IoError Nat :=
  match t.resolve false p with
  | .error e => .error e
  | .ok ⟨_, none⟩ => .error .notFound
  | .ok ⟨_, some (.file contents)⟩ => .ok contents.size
  | .ok ⟨_, some _⟩ => .error .notAFile

/-- The first `len` bytes of what a path leads to, if it may be read. -/
def readExact (p : Path) (len : Nat) (t : FileTree) : Except IoError Bytes :=
  match t.resolve false p with
  | .error e => .error e
  | .ok ⟨_, none⟩ => .error .notFound
  | .ok ⟨loc, some entry⟩ =>
    if (t.access loc).read then entry.readExact len else .error .permissionDenied

/-- May data be written at a location where this stands?  Whether a file can be made where there is
none is up to the directory above. -/
def mayWrite (loc : Location) (t : FileTree) : Option Entry → Bool
  | none => (t.access loc.dropLast).write
  | some _ => (t.access loc).write

/-- The tree with the file that a path leads to holding exactly the given data.  The file is made
if there is none. -/
def write (p : Path) (d : Bytes) (t : FileTree) : Except IoError FileTree :=
  match t.resolve true p with
  | .error e => .error e
  | .ok ⟨loc, none⟩ =>
    if t.mayWrite loc none then .ok (t.put loc (.file d)) else .error .permissionDenied
  | .ok ⟨loc, some (.file old)⟩ =>
    if t.mayWrite loc (some (.file old)) then .ok (t.put loc (.file d))
    else .error .permissionDenied
  | .ok ⟨loc, some (.special kind)⟩ =>
    if t.mayWrite loc (some (.special kind)) then
      -- What a special file takes is gone.
      if kind = .full ∧ d.size ≠ 0 then .error .noSpace else .ok t
    else .error .permissionDenied
  | .ok ⟨_, some _⟩ => .error .isADirectory

@[simp] theorem workDir_put (loc : Location) (e : Entry) (t : FileTree) :
    (t.put loc e).workDir = t.workDir := rfl

@[simp] theorem access_put (loc : Location) (e : Entry) (t : FileTree) :
    (t.put loc e).access = t.access := rfl

/-- Writing does not move the working directory. -/
theorem workDir_write {p : Path} {d : Bytes} {t t' : FileTree} (h : t.write p d = .ok t') :
    t'.workDir = t.workDir := by
  simp only [write] at h
  split at h
  · cases h
  · split at h
    · cases h; rfl
    · cases h
  · split at h
    · cases h; rfl
    · cases h
  · split at h
    · split at h
      · cases h
      · cases h; rfl
    · cases h
  · cases h

/-! ### Setting up a tree -/

/-- The path that some names make up. -/
def pathOf (names : List (List UInt8)) : Path := ⟨[Path.slash].intercalate names⟩

/-- Where the last name of a path stands, without following it if it is a link. -/
def placeOf (p : Path) (t : FileTree) : Except IoError Location :=
  match p.names.getLast? with
  | none => .error .notFound
  | some last =>
    let parent := if p.names.length = 1 then ⟨FileTree.dot⟩ else pathOf p.names.dropLast
    match t.resolve false (if p.isAbsolute then ⟨Path.slash :: parent.bytes⟩ else parent) with
    | .ok ⟨loc, some .directory⟩ => .ok (loc ++ [last])
    | .ok _ => .error .notADirectory
    | .error e => .error e

/-- The tree without the entry that a path names, and without what is below it; nothing if there
is no such entry. -/
def remove? (p : Path) (t : FileTree) : Option FileTree :=
  match t.placeOf p with
  | .error _ => none
  | .ok loc => (t.entryAt? loc).map fun _ => t.removeBelow loc

/-- The tree with directories made for the first names of a path, as far as there are none. -/
def makeDirectories (names : List (List UInt8)) (t : FileTree) : FileTree :=
  (List.range names.length).foldl (fun t i =>
    match t.resolve false (pathOf (names.take (i + 1))) with
    | .ok ⟨loc, none⟩ => t.put loc .directory
    | _ => t) t

/-- The tree with an entry set up at a path below the working directory, and the directories on
the way to it. -/
def arrange (p : Path) (e : Entry) (t : FileTree) : FileTree :=
  let t := t.makeDirectories p.names.dropLast
  match e with
  | .file contents =>
    match t.write p contents with
    | .ok t => t
    | .error _ => t
  | .directory => t.makeDirectories p.names
  | other =>
    match t.placeOf p with
    | .ok loc => t.put loc other
    | .error _ => t

/-- A tree with the usual special files and an empty working directory at a location. -/
def withWorkDir (workDir : Location) : FileTree :=
  let name (s : String) : List UInt8 := Text.encodeUtf8 s
  let dev := name "dev"
  { entries :=
      ([([dev], .directory), ([dev, name "null"], .special .null),
        ([dev, name "zero"], .special .zero), ([dev, name "full"], .special .full)] :
          List (Location × Entry)) ++
        (List.range workDir.length).map fun i => (workDir.take (i + 1), .directory)
    workDir }

/-- A tree with the usual special files and an empty working directory. -/
def fresh : FileTree := withWorkDir [Text.encodeUtf8 "tmp", Text.encodeUtf8 "work"]

/-- The entries below the working directory, by their paths relative to it. -/
def listing (t : FileTree) : List (Path × Entry) :=
  t.entries.filterMap fun (loc, e) =>
    if t.workDir.isPrefixOf loc && loc.length != t.workDir.length then
      some (pathOf (loc.drop t.workDir.length), e)
    else none

/-- Do two entries agree, as far as they are files? -/
def Agrees : Option Entry → Bytes → Prop
  | some (.file d), d' => d.toList = d'.toList
  | _, _ => False

instance (e : Option Entry) (d : Bytes) : Decidable (Agrees e d) := by
  unfold Agrees
  split <;> infer_instance

/-- The files of a tree that another one does not hold with the same contents. -/
def changes (before after : FileTree) : List (Location × Bytes) :=
  after.entries.filterMap fun (loc, e) =>
    match e with
    | .file d => if Agrees (before.entryAt? loc) d then none else some (loc, d)
    | _ => none

end FileTree

end Offload
