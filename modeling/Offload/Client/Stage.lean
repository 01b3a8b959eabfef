/-
**The stages of a client and the steps between them.**

A client stages its input and its output, opens a session, executes the job, and looks at the
result; in the end it is torn down.  Each step is allowed in one stage only.

Main definitions:

* `Stage` — how far a client has come;
* `Step` — what it can be asked to do; `Step.requires` is the stage in which the step is allowed.
-/

set_option relaxedAutoImplicit false
set_option autoImplicit false

namespace Offload

/-- How far a client has come. -/
inductive Stage where
  | unconfigured
  | inputStaged
  | staged
  | sessionOpen
  | executed
  | verified
  | skipped
  | tornDown
  | failed
  deriving DecidableEq, Repr

/-- The name of a stage. -/
def Stage.name : Stage → String
  | unconfigured => "Unconfigured"
  | inputStaged => "InputStaged"
  | staged => "Staged"
  | sessionOpen => "SessionOpen"
  | executed => "Executed"
  | verified => "Verified"
  | skipped => "Skipped"
  | tornDown => "TornDown"
  | failed => "Failed"

/-- What a client can be asked to do. -/
inductive Step where
  | stageInput
  | stageOutput
  | acquireSession
  | execute
  | writeOutput
  | checkReturnCode
  | verify
  deriving DecidableEq, Repr

namespace Step

/-- The step in words. -/
def phrase : Step → String
  | stageInput => "stage input"
  | stageOutput => "stage output"
  | acquireSession => "acquire a session"
  | execute => "execute"
  | writeOutput => "write output"
  | checkReturnCode => "check the return code"
  | verify => "verify"

/-- The one stage in which a step is allowed. -/
def requires : Step → Stage
  | stageInput => .unconfigured
  | stageOutput => .inputStaged
  | acquireSession => .staged
  | execute => .sessionOpen
  | writeOutput => .executed
  | checkReturnCode => .executed
  | verify => .executed

end Step

end Offload
