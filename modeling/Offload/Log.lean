/-
**Log records.**

Main definitions:

* `Log.Level` — how severe a record is;
* `Log.Source` — the part of the program that a record comes from;
* `Log.Record` — a record;
* `Log.Level.includes` — which records a level lets through.
-/

set_option relaxedAutoImplicit false
set_option autoImplicit false

namespace Offload.Log

/-- How severe a record is. -/
inductive Level where
  | error
  | warn
  | info
  | debug
  | trace
  deriving DecidableEq, Repr

namespace Level

/-- The rank of a level: the more severe, the lower. -/
def rank : Level → Nat
  | error => 1
  | warn => 2
  | info => 3
  | debug => 4
  | trace => 5

/-- The name of a level. -/
def name : Level → String
  | error => "ERROR"
  | warn => "WARN"
  | info => "INFO"
  | debug => "DEBUG"
  | trace => "TRACE"

/-- Does a threshold let records of a level through?  Without a threshold none passes. -/
def admits (threshold : Option Level) (level : Level) : Bool :=
  match threshold with
  | some t => level.rank ≤ t.rank
  | none => false

end Level

/-- The part of the program that a record comes from. -/
inductive Source where
  | program
  | client
  | errors
  | jobs
  | memory
  | platform
  | software
  | files
  | verification
  deriving DecidableEq, Repr

/-- The name of a source in a line of the log. -/
def Source.name : Source → String
  | .program => "helloaccel"
  | .client => "helloaccel::client"
  | .errors => "helloaccel::error"
  | .jobs => "helloaccel::job"
  | .memory => "helloaccel::memory"
  | .platform => "helloaccel::platforms::platform"
  | .software => "helloaccel::platforms::software"
  | .files => "helloaccel::system_io"
  | .verification => "helloaccel::verify"

/-- A record of the log. -/
structure Record where
  level : Level
  source : Source
  text : String
  deriving DecidableEq, Repr

end Offload.Log
