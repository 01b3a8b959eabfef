/-
**The program.**

The program reads its arguments, runs one client on them and says how it went.  Its whole effect is
a function of the arguments, the environment, the files and the time that a job takes: an exit
status, what it prints, and the files afterwards.

Main definitions:

* `Environment` — the values of the environment that count;
* `Program.Effect` — what a run of the program comes to;
* `Program.paths` — the files that it may look at;
* `Program.run` — the program.
-/

import Offload.Client
import Offload.CommandLine.Arguments
import Offload.CommandLine.Help
import Offload.Log.Filter
import Offload.Log.Line

set_option relaxedAutoImplicit false
set_option autoImplicit false

namespace Offload

/-- The values of the environment that count, as bytes. -/
structure Environment where
  /-- Which backend runs the action (`OCACCEL_CONFIG`). -/
  backend : Option (List UInt8)
  /-- What the library of a card traces (`OCACCEL_TRACE`). -/
  trace : Option (List UInt8)
  /-- Which log records are printed (`RUST_LOG`). -/
  log : Option (List UInt8)

namespace Program

/-- What a run of the program comes to. -/
structure Effect where
  status : UInt8
  stdout : String
  stderr : String
  /-- What is wrong with the command line, if anything is. -/
  usageError : Option UsageError
  files : FileTree

/-- A value of the environment, if it is text. -/
def textOf (value : Option (List UInt8)) : Option String := value.bind Text.decodeUtf8?

/-- The backends of the program. -/
def backends : List (Backend Software.Cards) := [Software.backend]

/-- The platform that the program runs on. -/
def platform (allocator : Allocator) (jobTime : Nat) : Platform Software.Cards :=
  ⟨allocator, some backends, jobTime⟩

/-- The machine at the start. -/
def start (files : FileTree) : Machine Software.Cards := ⟨.empty, files, .none, [], []⟩

/-- The client that a command line asks for. -/
def clientOf (inv : Invocation) (env : Environment) : Client Software.Cards :=
  .fresh (inv.toOptions (Device.backendOf (textOf env.backend)))

/-- What is printed when the job was done: the time that it took is given in microseconds. -/
def successText (jobTime : Nat) : String :=
  "SUCCESS\nhelloaccel took " ++ toString (jobTime / 1000) ++ " usec\n"

/-- What is printed when the action reports a failure. -/
def failureText : String := "FAILED\n"

/-- What is printed, and the result of the run, after the parameters. -/
def verdict (jobTime : Nat) (result : Except Error RunReport) : String :=
  match result with
  | .ok _ => successText jobTime
  | .error (.returnCode _) => failureText
  | .error _ => ""

/-- Stages, prints the parameters, runs the job and prints how it went. -/
def runClient (p : Platform Software.Cards) (c : Client Software.Cards)
    (m : Machine Software.Cards) : Except Error RunReport × String × Machine Software.Cards :=
  match c.stageInput p m with
  | (.error e, c, m) => (.error e, "", c.drop m)
  | (.ok (), c, m) =>
    match c.stageOutput p m with
    | (.error e, c, m) => (.error e, "", c.drop m)
    | (.ok (), c, m) =>
      match c.complete p m with
      | (result, c', m) => (result, c.params.text ++ "\n" ++ verdict p.jobTime result, c'.drop m)

/-- What the program logs of its own before the run. -/
def openingRecords (inv : Invocation) (env : Environment) : List Log.Record :=
  ⟨.debug, .program, "parsed cli command with " ++ inv.describe⟩ ::
    (match textOf env.trace with
      | some mask => [⟨.debug, .program, "vendor library trace mask OCACCEL_TRACE=" ++ mask⟩]
      | none => [])

/-- The filter of the log, and the warnings about it: what the environment says, or else
everything up to information, with the verbose flag up to details. -/
def filterOf (inv : Invocation) (env : Environment) : Log.Filter × List String :=
  match textOf env.log with
  | some s => Log.Filter.parse s
  | none => (.upTo (if inv.verbose then .debug else .info), [])

/-- The exit status of a run. -/
def statusOf : Except Error RunReport → UInt8
  | .ok report => report.exitStatus
  | .error _ => Error.exitStatus

/-- The record of the error that ends a run. -/
def closingRecords : Except Error RunReport → List Log.Record
  | .ok _ => []
  | .error e => [e.record]

/-- Runs what a command line asks for. -/
def runInvocation (allocator : Allocator) (jobTime : Nat) (inv : Invocation) (env : Environment)
    (files : FileTree) : Effect :=
  let p := platform allocator jobTime
  let (filter, warnings) := filterOf inv env
  let (result, stdout, m) :=
    runClient p (clientOf inv env) ((start files).noteAll (openingRecords inv env))
  let records := (m.log ++ closingRecords result).filter filter.admits
  { status := statusOf result
    stdout
    stderr := String.join (warnings.map fun w => "warning: " ++ w ++ ", ignoring it\n") ++
      String.join (records.map Log.Record.line)
    usageError := none
    files := m.files }

/-- An effect that is nothing but an answer on the standard output. -/
def printing (status : UInt8) (stdout : String) (files : FileTree) : Effect :=
  ⟨status, stdout, "", none, files⟩

/-- The effect of a command line with something wrong in it. -/
def refusing (e : UsageError) (files : FileTree) : Effect := ⟨1, "", e.text, some e, files⟩

/-- The files that a command line names. -/
def paths (args : List Argument) : List Path :=
  match CommandLine.parse args with
  | .ok inv => inv.input.toList ++ inv.output.toList
  | .error _ => []

/-- The program.  Without arguments it prints its help, as it does when asked for it, but that is
a failure. -/
def run (allocator : Allocator) (jobTime : Nat) (args : List Argument) (env : Environment)
    (files : FileTree) : Effect :=
  if args.isEmpty then printing 1 CommandLine.help files
  else
    match CommandLine.parse args with
    | .error (.inquiry .help) => printing 0 CommandLine.help files
    | .error (.inquiry .version) => printing 0 CommandLine.version files
    | .error (.error e) => refusing e files
    | .ok inv => runInvocation allocator jobTime inv env files

end Program

end Offload
