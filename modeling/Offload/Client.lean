/-
**Clients.**

A client takes one job from its options to its report: it stages the input and the output, opens a
session, executes the job, writes the output file, checks the return code and compares the output
with the input.  A step that is not allowed in the client's stage changes nothing.  A step that
fails tears the client down: session first, then the output buffer, then the input buffer.

Main definitions:

* `Client` — a client; `Client.fresh` — one that has done nothing yet;
* `Client.stageInput`, `Client.stageOutput`, `Client.acquireSession`, `Client.execute`,
  `Client.writeOutput`, `Client.checkReturnCode`, `Client.verify` — the steps;
* `Client.teardown` — letting go of everything;
* `Client.complete` — all that follows staging; `Client.run` — a whole run;
* `RunReport` — what a run that succeeded comes to.

Main results:

* `Client.teardown_teardown` — **tearing down twice is tearing down once**;
* `Client.stage_fail` — a step that fails leaves the client failed.
-/

import Offload.Client.Options
import Offload.Session
import Offload.Text.Elapsed
import Offload.Verification

set_option relaxedAutoImplicit false
set_option autoImplicit false

namespace Offload

variable {σ α β : Type}

/-- A client: its options, its stage, the parameters of its job, and what it holds. -/
structure Client (σ : Type) where
  options : Options
  stage : Stage
  params : Parameters
  input : Option HostBuffer
  output : Option HostBuffer
  session : Option (Session σ)
  job : Option Job

/-- What a run that succeeded comes to. -/
structure RunReport where
  retc : UInt32
  verification : Verification
  deriving DecidableEq, Repr

/-- The exit status when the output differs from the input. -/
def RunReport.mismatchStatus : UInt8 := 65

/-- The exit status of a run. -/
def RunReport.exitStatus (r : RunReport) : UInt8 :=
  if r.verification.failed then mismatchStatus else 0

/-- What a step of a client comes to: its result, and the client and the machine afterwards. -/
abbrev Turn (σ α : Type) := Except Error α × Client σ × Machine σ

/-- One step after another, as long as they succeed. -/
def Turn.andThen (t : Turn σ α) (f : α → Client σ → Machine σ → Turn σ β) : Turn σ β :=
  match t with
  | (.ok a, c, m) => f a c m
  | (.error e, c, m) => (.error e, c, m)

namespace Client

/-- A client that has done nothing yet. -/
def fresh (o : Options) : Client σ where
  options := o
  stage := .unconfigured
  params := .ofOptions o
  input := none
  output := none
  session := none
  job := none

/-! ### Letting go -/

/-- The machine after a session, if there is one, is released. -/
def releaseSession (session : Option (Session σ)) (m : Machine σ) : Machine σ :=
  match session with
  | some s => (s.release m).2
  | none => m

/-- The machine after a buffer, if there is one, is freed. -/
def freeBuffer (what : String) (buffer : Option HostBuffer) (m : Machine σ) : Machine σ :=
  match buffer with
  | some b => (m.note .debug .client ("freeing " ++ what ++ " buffer")).free b
  | none => m

/-- Lets go of the session and of both buffers, in this order. -/
def teardown (c : Client σ) (m : Machine σ) : Client σ × Machine σ :=
  ({ c with
      session := none
      output := none
      input := none
      stage := if c.stage = .failed then .failed else .tornDown },
    freeBuffer "input" c.input (freeBuffer "output" c.output (releaseSession c.session m)))

/-- Tearing down twice is tearing down once. -/
theorem teardown_teardown (c : Client σ) (m : Machine σ) :
    (c.teardown m).1.teardown (c.teardown m).2 = c.teardown m := by
  by_cases h : c.stage = .failed <;> simp [teardown, h, freeBuffer, releaseSession]

/-- A step that fails: the client is torn down, and has failed. -/
def fail (e : Error) (c : Client σ) (m : Machine σ) : Turn σ α :=
  (.error e, ({ c with stage := .failed }).teardown m)

@[simp] theorem stage_fail (e : Error) (c : Client σ) (m : Machine σ) :
    (fail (α := α) e c m).2.1.stage = .failed := by
  simp [fail, teardown]

/-- Does a step only if the client's stage allows it. -/
@[macro_inline]
def inStage (step : Step) (c : Client σ) (m : Machine σ) (act : Turn σ α) : Turn σ α :=
  if c.stage = step.requires then act
  else (.error (.internal (.outOfOrder step c.stage)), c, m)

/-- A step that the stage allows is done. -/
theorem inStage_eq (step : Step) {c : Client σ} (h : c.stage = step.requires) (m : Machine σ)
    (act : Turn σ α) : inStage step c m act = act :=
  if_pos h

/-! ### Staging -/

/-- Reads a file into a buffer of its length.  The length is checked before anything is allocated,
and if the file cannot be read the buffer is given back. -/
def loadFile (p : Platform σ) (path : Path) (m : Machine σ) :
    Except Error HostBuffer × Machine σ :=
  match m.fileSize path with
  | (.error e, m) => (.error e, m)
  | (.ok len, m) =>
    -- A length that no job could carry is refused before any memory is taken for it.
    match descriptorLength len with
    | none => (.error (.argument (.oversized len)), m)
    | some _ =>
      match m.allocate p len with
      | (.error e, m) => (.error e, m)
      | (.ok buffer, m) =>
        let m := m.note .info .client
          ("reading input data " ++ toString len ++ " bytes from " ++ path.quoted)
        match m.readFile path len with
        | (.error e, m) => (.error e, m.free buffer)
        | (.ok d, m) => (.ok buffer, m.fill buffer d)

/-- Stages the input: with an input file, its bytes in a buffer, which becomes the source of the
job and sets the size; without one, nothing. -/
def stageInput (p : Platform σ) (c : Client σ) (m : Machine σ) : Turn σ Unit :=
  inStage .stageInput c m <|
    match c.options.input with
    | none => (.ok (), { c with stage := .inputStaged }, m)
    | some path =>
      match loadFile p path m with
      | (.error e, m) => c.fail e m
      | (.ok buffer, m) =>
        (.ok (),
          { c with
            stage := .inputStaged
            input := some buffer
            params := { c.params with
              size := buffer.size, spaceIn := .hostDram, addrIn := buffer.addr } },
          m)

/-- Allocates the buffer for the output and the guard behind it. -/
def outputBuffer (p : Platform σ) (size guard : Nat) (m : Machine σ) :
    Except Error HostBuffer × Machine σ :=
  if size + guard < UInt64.size then m.allocate p (size + guard)
  else (.error (.argument (.noRoomForGuard size)), m)

/-- Stages the output: a buffer of zeros for the data and the guard, which becomes the destination
of the job, unless the result goes to an address that was given. -/
def stageOutput (p : Platform σ) (c : Client σ) (m : Machine σ) : Turn σ Unit :=
  inStage .stageOutput c m <|
    match descriptorLength c.params.size with
    | none => c.fail (.argument (.oversized c.params.size)) m
    | some _ =>
      if c.options.stagesOutput then
        match outputBuffer p c.params.size c.options.guardLength m with
        | (.error e, m) => c.fail e m
        | (.ok buffer, m) =>
          (.ok (),
            { c with
              stage := .staged
              output := some buffer
              params := { c.params with spaceOut := .hostDram, addrOut := buffer.addr } },
            m)
      else (.ok (), { c with stage := .staged }, m)

/-! ### Executing -/

/-- Opens the card and attaches the action. -/
def acquireSession (p : Platform σ) (c : Client σ) (m : Machine σ) : Turn σ Unit :=
  inStage .acquireSession c m <|
    match Session.acquire p c.options.backend c.options.card c.options.irq m with
    | (.error e, m) => c.fail e m
    | (.ok session, m) =>
      (.ok (), { c with stage := .sessionOpen, session := some session }, m)

/-- The record that a job is prepared. -/
def preparation : Log.Record := ⟨.debug, .jobs, "prepare changecase job of 32 bytes size"⟩

/-- The job that the parameters describe. -/
def jobOf (p : Parameters) : Except Error Job := p.request.job

/-- Submits a job to the action of a session. -/
def submit (session : Option (Session σ)) (job : Job) (timeout : Nat) (m : Machine σ) :
    Except Error Unit × Job × Machine σ :=
  match session with
  | none => (.error (.internal .noSession), job, m)
  | some s =>
    match s.action with
    | none => (.error (.internal .noAction), job, m)
    | some action => m.execute action job timeout

/-- Executes the job that the parameters describe. -/
def execute (p : Platform σ) (c : Client σ) (m : Machine σ) : Turn σ Unit :=
  inStage .execute c m <|
    let m := m.noteAll [preparation]
    match jobOf c.params with
    | .error e => c.fail e m
    | .ok job =>
      match submit c.session job c.options.timeout m with
      | (.error e, _, m) => c.fail e m
      | (.ok (), job, m) =>
        (.ok (), { c with stage := .executed, job := some job },
          m.note .debug .client ("job finished with retc 0x" ++ Text.hex job.retc.toNat ++
            " after " ++ Text.elapsed p.jobTime))

/-! ### Looking at the result -/

/-- Writes the data in the output buffer, without the guard, to the output file, if there is
one. -/
def writeOutput (c : Client σ) (m : Machine σ) : Turn σ Unit :=
  inStage .writeOutput c m <|
    match c.options.output, c.output with
    | some path, some buffer =>
      let m := m.note .info .client ("writing output data " ++
        Machine.showAddress buffer.addr ++ " " ++ toString c.params.size ++ " bytes to " ++
        path.quoted)
      match m.writeFile path ((m.contents buffer).take c.params.size) with
      | (.error e, m) => c.fail e m
      | (.ok (), m) => (.ok (), c, m)
    | _, _ => (.ok (), c, m)

/-- The return code of the job, if the action reports success. -/
def checkReturnCode (c : Client σ) (m : Machine σ) : Turn σ UInt32 :=
  inStage .checkReturnCode c m <|
    match c.job with
    | none => c.fail (.returnCode 0) m
    | some job =>
      if job.succeeded then (.ok job.retc, c, m) else c.fail (.returnCode job.retc) m

/-- Compares the output with the input, if that is asked for and both are staged.  A mismatch is
an outcome, not an error. -/
def verify (c : Client σ) (m : Machine σ) : Turn σ Verification :=
  inStage .verify c m <|
    if c.options.verify then
      match c.params.spaceIn, c.params.spaceOut, c.input, c.output with
      | .hostDram, .hostDram, some input, some output =>
        let given := (m.contents input).toList
        let found := (m.contents output).toList
        let outcome := Verification.compare given found
        let m := m.noteAll (Verification.report given found)
        let m := if outcome.failed then m.note .error .client "verification failed" else m
        (.ok outcome, { c with stage := .verified }, m)
      | _, _, _, _ =>
        (.ok .skipped, { c with stage := .skipped },
          m.note .warn .client "Verification works currently only with HOST_DRAM")
    else (.ok .skipped, { c with stage := .skipped }, m)

/-! ### Whole runs -/

/-- All the steps that follow staging. -/
def finish (p : Platform σ) (c : Client σ) (m : Machine σ) : Turn σ RunReport :=
  (c.acquireSession p m).andThen fun _ c m =>
  (c.execute p m).andThen fun _ c m =>
  (c.writeOutput m).andThen fun _ c m =>
  (c.checkReturnCode m).andThen fun retc c m =>
  (c.verify m).andThen fun verification c m =>
  (.ok ⟨retc, verification⟩, c, m)

/-- All that follows staging; whatever comes of it, the client is torn down. -/
def complete (p : Platform σ) (c : Client σ) (m : Machine σ) : Turn σ RunReport :=
  match c.finish p m with
  | (result, c, m) => (result, c.teardown m)

/-- Staging, and all that follows it. -/
def runSteps (p : Platform σ) (c : Client σ) (m : Machine σ) : Turn σ RunReport :=
  (c.stageInput p m).andThen fun _ c m =>
  (c.stageOutput p m).andThen fun _ c m =>
  c.complete p m

/-- Lets go of a client for good. -/
def drop (c : Client σ) (m : Machine σ) : Machine σ := (c.teardown m).2

/-- A whole run, which uses the client up. -/
def run (p : Platform σ) (c : Client σ) (m : Machine σ) : Except Error RunReport × Machine σ :=
  match c.runSteps p m with
  | (result, c, m) => (result, c.drop m)

end Client

end Offload
