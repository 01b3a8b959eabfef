/-
**The command line.**

Hands the arguments, the environment and the files that the command line names to the program, and
does what comes of it: writes the files that changed, prints, and exits.

Main definitions:

* `CommandLine.survey` — the files on the way of a path;
* `main` — the command line.
-/

import Offload.Program

set_option relaxedAutoImplicit false
set_option autoImplicit false

namespace Offload.CommandLine

/-- A location as the file system names it. -/
def placeName (loc : Location) : String :=
  "/" ++ "/".intercalate (loc.map Text.lossy)

/-- What stands at a location, looked at through links. -/
def look (loc : Location) : IO (Option Entry) := do
  try
    return some (.file (.ofByteArray (← IO.FS.readBinFile (placeName loc))))
  catch
    | .inappropriateType .. => return some .directory
    | .permissionDenied file code details => throw (.permissionDenied file code details)
    | _ => return none

/-- What may be done with an entry that was looked at.  A file is opened for writing, and left as it
is. -/
def lookAccess (loc : Location) : Entry → IO Access
  | .file _ => do
    try
      let _ ← IO.FS.Handle.mk (placeName loc) .readWrite
      return .full
    catch
      | .permissionDenied .. => return { Access.full with write := false }
      | _ => return .full
  | _ => return .full

/-- The tree with what stands on the way of names from a location. -/
def surveyNames (t : FileTree) (loc : Location) : List (List UInt8) → IO FileTree
  | [] => return t
  | name :: rest => do
    if name = FileTree.dot then surveyNames t loc rest
    else if name = FileTree.dotDot then surveyNames t loc.dropLast rest
    else
      let here := loc ++ [name]
      match t.entryAt? here with
      | some _ => surveyNames t here rest
      | none =>
        match ← look here with
        | some e => surveyNames ((t.put here e).restrict here (← lookAccess here e)) here rest
        | none => return t

/-- The tree with what stands on the way of a path. -/
def survey (t : FileTree) (path : Path) : IO FileTree :=
  surveyNames t (if path.isAbsolute then [] else t.workDir) path.names

/-- Writes bytes piece by piece, zeros in pieces of at most a mebibyte. -/
def writeChunk (file : IO.FS.Handle) : Chunk → IO Unit
  | .data b => file.write b
  | .zeros n => do
    let piece := 1024 * 1024
    let block := (Bytes.zeros (min n piece)).toByteArray
    for _ in [0 : n / piece] do file.write block
    file.write ((Bytes.zeros (n % piece)).toByteArray)

/-- Writes a file. -/
def save (loc : Location) (d : Bytes) : IO Unit := do
  let file ← IO.FS.Handle.mk (placeName loc) .write
  for chunk in d.chunks do writeChunk file chunk

/-- The value of a variable of the environment, as bytes. -/
def setting (name : String) : IO (Option (List UInt8)) :=
  return (← IO.getEnv name).map Text.encodeUtf8

end Offload.CommandLine

open Offload in
/-- Runs the program. -/
def main (args : List String) : IO UInt32 := do
  let arguments := args.map Text.encodeUtf8
  let env : Environment :=
    { backend := ← CommandLine.setting "OCACCEL_CONFIG"
      trace := ← CommandLine.setting "OCACCEL_TRACE"
      log := ← CommandLine.setting "RUST_LOG" }
  let workDir := (Path.ofString (toString (← IO.currentDir))).names
  let files ← (Program.paths arguments).foldlM CommandLine.survey (.withWorkDir workDir)
  -- What a run does to the files does not depend on the time, so that the time is measured first
  -- and then told.
  let run (jobTime : Nat) := Program.run .slots jobTime arguments env files
  let started ← IO.monoNanosNow
  for (loc, d) in files.changes (run 0).files do CommandLine.save loc d
  let effect := run ((← IO.monoNanosNow) - started)
  IO.print effect.stdout
  IO.eprint effect.stderr
  return effect.status.toUInt32
