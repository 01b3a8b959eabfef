/-
**Branches that a client never takes.**

Some branches of a client's steps are there for safety only.  The size and the guard are added with
a check, the job is built from a size that may not fit, the session and its action may be missing,
and so may the job on record; the data is cut from the front of the output buffer as if there were
always enough.  Here each of these is a hazard, and a step that runs into one comes to nothing else.
On a client that calls have led to, no call does: what a branch guards against was ruled out by an
earlier step, and what that step found has been carried along.

Main definitions:

* `Guarded.stageOutput`, `Guarded.execute`, `Guarded.writeOutput`, `Guarded.checkReturnCode` — the
  steps with such branches;
* `Guarded.answer` — a call.

Main results:

* `Guarded.stageOutput_eq`, `Guarded.execute_eq`, `Guarded.writeOutput_eq`,
  `Guarded.checkReturnCode_eq` — each step on its own;
* `Client.never_hazardous` — **no call on a client runs into a hazard**, and neither does any access
  to card memory.
-/

import Offload.Proofs.Client.Prepare
import Offload.Proofs.Memory.Hazards
import Offload.Proofs.Verification.Decision

set_option relaxedAutoImplicit false
set_option autoImplicit false

namespace Offload

variable {σ α β : Type}

namespace Guarded

open Client (Call Answer Phase Reachable fresh jobOf preparation)
open Hazard (present accepted bind_eq)
open Machine (Holding)

variable {p : Platform σ} {o : Options} {c : Client σ} {m : Machine σ}
  {others : List HostBuffer}

/-! ### Turns -/

/-- The same turn, with its result put in another form. -/
def map (f : α → β) (t : Except Hazard (Turn σ α)) : Except Hazard (Turn σ β) :=
  match t with
  | .ok t => .ok (t.map f)
  | .error h => .error h

/-- One step after another, as long as they succeed. -/
def andThen (t : Except Hazard (Turn σ α))
    (f : α → Client σ → Machine σ → Except Hazard (Turn σ β)) : Except Hazard (Turn σ β) :=
  match t with
  | .ok (.ok a, c, m) => f a c m
  | .ok (.error e, c, m) => .ok (.error e, c, m)
  | .error h => .error h

/-- Does a step only if the client's stage allows it. -/
def inStage (step : Step) (c : Client σ) (m : Machine σ) (act : Except Hazard (Turn σ α)) :
    Except Hazard (Turn σ α) :=
  if c.stage = step.requires then act
  else .ok (.error (.internal (.outOfOrder step c.stage)), c, m)

theorem inStage_eq {step : Step} {act : Except Hazard (Turn σ α)} {turn : Turn σ α}
    (h : c.stage = step.requires → act = .ok turn) :
    inStage step c m act = .ok (Client.inStage step c m turn) := by
  rw [inStage, Client.inStage]
  split
  · next hstage => exact h hstage
  · rfl

/-- Steps without a hazard make up turns without one. -/
theorem andThen_eq {t : Except Hazard (Turn σ α)} {turn : Turn σ α}
    {f : α → Client σ → Machine σ → Except Hazard (Turn σ β)}
    {g : α → Client σ → Machine σ → Turn σ β} (ht : t = .ok turn)
    (hturn : Phase o turn.2.1 ∧ Holding turn.2.1.buffers others turn.2.2)
    (hf : ∀ a c m, Phase o c ∧ Holding c.buffers others m → f a c m = .ok (g a c m)) :
    andThen t f = .ok (turn.andThen g) := by
  subst ht
  obtain ⟨e | a, c, m⟩ := turn
  · rfl
  · exact hf a c m hturn

/-! ### Steps -/

/-- Stages the output.  The sum of the size and the guard must not overflow. -/
def stageOutput (p : Platform σ) (c : Client σ) (m : Machine σ) : Except Hazard (Turn σ Unit) :=
  inStage .stageOutput c m <|
    match descriptorLength c.params.size with
    | none => .ok (c.fail (.argument (.oversized c.params.size)) m)
    | some _ =>
      if c.options.stagesOutput then do
        let total ← Hazard.sum c.params.size c.options.guardLength
        return match m.allocate p total with
          | (.error e, m) => c.fail e m
          | (.ok buffer, m) =>
            (.ok (),
              { c with
                stage := .staged
                output := some buffer
                params := { c.params with spaceOut := .hostDram, addrOut := buffer.addr } },
              m)
      else .ok (.ok (), { c with stage := .staged }, m)

/-- Submits a job to the action of a session, which must be there. -/
def submit (session : Option (Session σ)) (job : Job) (timeout : Nat) (m : Machine σ) :
    Except Hazard (Except Error Unit × Job × Machine σ) := do
  let session ← present session
  let action ← present session.action
  return m.execute action job timeout

/-- Executes the job that the parameters describe.  They must describe one. -/
def execute (p : Platform σ) (c : Client σ) (m : Machine σ) : Except Hazard (Turn σ Unit) :=
  inStage .execute c m do
    let m := m.noteAll [preparation]
    let job ← accepted (jobOf c.params)
    let done ← submit c.session job c.options.timeout m
    return match done with
      | (.error e, _, m) => c.fail e m
      | (.ok (), job, m) =>
        (.ok (), { c with stage := .executed, job := some job },
          m.note .debug .client ("job finished with retc 0x" ++ Text.hex job.retc.toNat ++
            " after " ++ Text.elapsed p.jobTime))

/-- Writes the data in the output buffer to the output file.  The buffer must hold as much. -/
def writeOutput (c : Client σ) (m : Machine σ) : Except Hazard (Turn σ Unit) :=
  inStage .writeOutput c m <|
    match c.options.output, c.output with
    | some path, some buffer => do
      let m := m.note .info .client ("writing output data " ++
        Machine.showAddress buffer.addr ++ " " ++ toString c.params.size ++ " bytes to " ++
        path.quoted)
      let data ← Hazard.before c.params.size (m.contents buffer)
      return match m.writeFile path data with
        | (.error e, m) => c.fail e m
        | (.ok (), m) => (.ok (), c, m)
    | _, _ => .ok (.ok (), c, m)

/-- The return code of the job, which must be on record. -/
def checkReturnCode (c : Client σ) (m : Machine σ) : Except Hazard (Turn σ UInt32) :=
  inStage .checkReturnCode c m do
    let job ← present c.job
    return if job.succeeded then (.ok job.retc, c, m) else c.fail (.returnCode job.retc) m

/-! ### Calls -/

/-- All the steps that follow staging. -/
def finish (p : Platform σ) (c : Client σ) (m : Machine σ) : Except Hazard (Turn σ RunReport) :=
  andThen (.ok (c.acquireSession p m)) fun _ c m =>
  andThen (execute p c m) fun _ c m =>
  andThen (writeOutput c m) fun _ c m =>
  andThen (checkReturnCode c m) fun retc c m =>
  andThen (.ok (c.verify m)) fun verification c m =>
  .ok (.ok ⟨retc, verification⟩, c, m)

/-- All that follows staging; whatever comes of it, the client is torn down. -/
def complete (p : Platform σ) (c : Client σ) (m : Machine σ) :
    Except Hazard (Turn σ RunReport) := do
  let (result, c, m) ← finish p c m
  return (result, c.teardown m)

/-- The client does a step. -/
def answerStep (p : Platform σ) (c : Client σ) (m : Machine σ) :
    Step → Except Hazard (Turn σ Answer)
  | .stageInput => .ok ((c.stageInput p m).map fun _ => .done)
  | .stageOutput => map (fun _ => .done) (stageOutput p c m)
  | .acquireSession => .ok ((c.acquireSession p m).map fun _ => .done)
  | .execute => map (fun _ => .done) (execute p c m)
  | .writeOutput => map (fun _ => .done) (writeOutput c m)
  | .checkReturnCode => map .returnCode (checkReturnCode c m)
  | .verify => .ok ((c.verify m).map .verification)

/-- The client answers a call. -/
def answer (p : Platform σ) (c : Client σ) (m : Machine σ) :
    Call → Except Hazard (Turn σ Answer)
  | .step step => answerStep p c m step
  | .complete => map .report (complete p c m)
  | .teardown => .ok (.ok .done, c.teardown m)

/-! ### No hazards -/

/-- The size is checked before the guard is added, so the sum never overflows. -/
theorem stageOutput_eq (p : Platform σ) (c : Client σ) (m : Machine σ) :
    stageOutput p c m = .ok (c.stageOutput p m) := by
  refine inStage_eq fun _ => ?_
  cases hsize : descriptorLength c.params.size with
  | none => rfl
  | some n =>
      have hlt : c.params.size < UInt32.size := by
        rw [← descriptorLength_eq_some_iff.1 hsize]
        exact n.toNat_lt
      have hsum : c.params.size + c.options.guardLength < UInt64.size := by
        have hguard := Options.guardLength_le c.options
        have hsizes : UInt32.size + 1024 ≤ UInt64.size := by decide
        omega
      simp only [bind_eq (Hazard.sum_eq hsum), Client.outputBuffer, if_pos hsum]
      split
      · rfl
      · rfl

/-- A session that is held has an action to submit a job to. -/
theorem submit_eq {session : Session σ} {backend : String} (hheld : session.Held backend)
    (job : Job) (timeout : Nat) (m : Machine σ) :
    submit (some session) job timeout m = .ok (Client.submit (some session) job timeout m) := by
  obtain ⟨action, card, rfl, -⟩ := hheld
  rfl

/-- A client with an open session has a job to execute, and an action to execute it. -/
theorem execute_eq (p : Platform σ) (hphase : Phase o c) (m : Machine σ) :
    execute p c m = .ok (c.execute p m) := by
  refine inStage_eq fun hstage => ?_
  obtain ⟨input, output, params, session, hst, hheld, rfl⟩ := hphase.sessionOpen hstage
  obtain ⟨len, -, hjob⟩ := Client.jobOf_eq_ok hst.size_lt
  simp only [hjob, accepted]
  rw [bind_eq rfl, bind_eq (submit_eq hheld _ _ _)]
  rfl

/-- The output buffer of a client that has executed its job holds the data and the guard. -/
theorem writeOutput_eq (hphase : Phase o c) (hheld : Holding c.buffers others m) :
    writeOutput c m = .ok (c.writeOutput m) := by
  refine inStage_eq fun _ => ?_
  cases hpath : c.options.output with
  | none => rfl
  | some path =>
      cases hbuffer : c.output with
      | none => rfl
      | some buffer =>
          have hst := hphase.staged_of_output hbuffer
          obtain ⟨hsize, -⟩ := hst.target_of_some hbuffer
          have hcontents := hheld.size_contents (Client.mem_buffers_of_output hbuffer)
          have hroom : c.params.size ≤ (m.contents buffer).size := by omega
          exact bind_eq (Hazard.before_eq hroom) _

/-- A client that has executed its job has it on record. -/
theorem checkReturnCode_eq (hphase : Phase o c) (m : Machine σ) :
    checkReturnCode c m = .ok (c.checkReturnCode m) := by
  refine inStage_eq fun hstage => ?_
  obtain ⟨input, output, params, session, job, retc, -, -, -, rfl⟩ := hphase.executed hstage
  rfl

/-- A client that keeps to its phases runs into no hazard on its way to a report. -/
theorem finish_eq (hA : p.allocator.Sound) (hphase : Phase o c)
    (hheld : Holding c.buffers others m) : finish p c m = .ok (c.finish p m) := by
  have hkept := Client.preserved_holding hA o others
  refine andThen_eq rfl (hkept.answerStep ⟨hphase, hheld⟩ .acquireSession) fun _ c m h => ?_
  refine andThen_eq (execute_eq p h.1 m) (hkept.answerStep h .execute) fun _ c m h => ?_
  refine andThen_eq (writeOutput_eq h.1 h.2) (hkept.answerStep h .writeOutput) fun _ c m h => ?_
  refine andThen_eq (checkReturnCode_eq h.1 m) (hkept.answerStep h .checkReturnCode)
    fun _ c m h => ?_
  exact andThen_eq rfl (hkept.answerStep h .verify) fun _ c m _ => rfl

theorem answerStep_eq (p : Platform σ) (hphase : Phase o c) (hheld : Holding c.buffers others m)
    (step : Step) : answerStep p c m step = .ok (c.answerStep p m step) := by
  cases step with
  | stageInput | acquireSession | verify => rfl
  | stageOutput => rw [answerStep, stageOutput_eq]; rfl
  | execute => rw [answerStep, execute_eq p hphase]; rfl
  | writeOutput => rw [answerStep, writeOutput_eq hphase hheld]; rfl
  | checkReturnCode => rw [answerStep, checkReturnCode_eq hphase]; rfl

theorem answer_eq (hA : p.allocator.Sound) (hphase : Phase o c)
    (hheld : Holding c.buffers others m) (call : Call) :
    answer p c m call = .ok (c.answer p m call) := by
  cases call with
  | step step => exact answerStep_eq p hphase hheld step
  | complete => rw [answer, complete, finish_eq hA hphase hheld]; rfl
  | teardown => rfl

end Guarded

namespace Client

/-- **No hazard is ever met.**  A client that any calls have led to, whatever the backends did,
answers each call as it does if none of its steps can run into a hazard; and so it is with any range
that is read or written of the memory of a card. -/
theorem never_hazardous :
    (∀ (σ : Type) (p : Platform σ) (o : Options) (c : Client σ) (m : Machine σ) (call : Call),
      p.allocator.Sound → Reachable o c m → Guarded.answer p c m call = .ok (c.answer p m call)) ∧
    (∀ (m : CardMemory) (addr : UInt64) (len : Nat),
      CardMemory.readKept addr len m.written.toList = .ok ((m.read? addr len).map Bytes.toList)) ∧
    ∀ (m : CardMemory) (addr : UInt64) (d : Bytes),
      CardMemory.writeKept addr d.toList m.written.toList =
        .ok ((m.write? addr d).map fun m' => m'.written.toList) := by
  refine ⟨?_, CardMemory.readKept_eq, CardMemory.writeKept_eq⟩
  intro σ p o c m call hA h
  obtain ⟨hphase, others, hheld⟩ := h.holding
  exact Guarded.answer_eq hA hphase hheld call

/-- A client of the program whose job was executed, and which is about to write its output. -/
theorem never_hazardous_executed :
    let p := Program.platform .slots 0
    let files : FileTree := { entries := [([[97]], .file (.ofList [65, 98]))], workDir := [] }
    let o : Options := { Options.standard Device.software with
      input := some ⟨[97]⟩, output := some ⟨[98]⟩, verify := true }
    let after := afterCalls p
      [.step .stageInput, .step .stageOutput, .step .acquireSession, .step .execute] (fresh o)
      (Program.start files)
    p.allocator.Sound ∧ Reachable o after.1 after.2 ∧ after.1.stage = .executed ∧
      Guarded.answer p after.1 after.2 (.step .writeOutput) =
        .ok (after.1.answer p after.2 (.step .writeOutput)) := by
  intro p files o after
  have hreachable : Reachable o after.1 after.2 :=
    reachable_afterCalls Allocator.sound_slots (.fresh HostMemory.sound_empty) _
  have hstage : after.1.stage = .executed := by decide +kernel
  exact ⟨Allocator.sound_slots, hreachable, hstage,
    never_hazardous.1 _ p o after.1 after.2 _ Allocator.sound_slots hreachable⟩

/-- A client that no calls lead to, for it claims that its job was executed. -/
example (p : Platform σ) (o : Options) (m : Machine σ) :
    Guarded.answer p { fresh o with stage := .executed } m (.step .checkReturnCode) =
      .error .missing := rfl

end Client

end Offload
