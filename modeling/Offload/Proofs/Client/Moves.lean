/-
**What a step of a client can come to.**

A step that the client's stage allows either advances the client or fails, and a failure tears the
client down.  Both are listed here once, with all that is needed to know about the client and the
machine before and after; whatever holds of every move then holds of every call, and of any number
of calls in any order.

Main definitions:

* `Client.Advance` — the ways in which a step succeeds;
* `Client.Setback` — the ways in which a step fails, with the machine as it is before the teardown;
* `Client.Preserved` — a property of client and machine that every move keeps.

Main results:

* `Client.answerStep_cases` — **an allowed step is an advance or a setback**;
* `Client.Preserved.answer`, `Client.Preserved.afterCalls` — **what every move keeps is kept by
  every call and by any number of calls**.
-/

import Offload.Client.Call
import Mathlib.Tactic.ByContra

set_option relaxedAutoImplicit false
set_option autoImplicit false

namespace Offload

variable {σ α β : Type}

namespace Client

/-! ### Moves -/

/-- The ways in which a step succeeds: what is answered, and the client and the machine
afterwards. -/
inductive Advance (p : Platform σ) (c : Client σ) (m : Machine σ) :
    Step → Answer → Client σ → Machine σ → Prop
  | noInput (hinput : c.options.input = none) :
      Advance p c m .stageInput .done { c with stage := .inputStaged } m
  | input {path : Path} {buffer : HostBuffer} {m' : Machine σ}
      (hinput : c.options.input = some path) (hload : loadFile p path m = (.ok buffer, m')) :
      Advance p c m .stageInput .done
        { c with
          stage := .inputStaged
          input := some buffer
          params := { c.params with
            size := buffer.size, spaceIn := .hostDram, addrIn := buffer.addr } } m'
  | noOutput (hsize : c.params.size < UInt32.size) (houtput : c.options.stagesOutput = false) :
      Advance p c m .stageOutput .done { c with stage := .staged } m
  | output {buffer : HostBuffer} {m' : Machine σ} (hsize : c.params.size < UInt32.size)
      (houtput : c.options.stagesOutput = true)
      (hbuffer : outputBuffer p c.params.size c.options.guardLength m = (.ok buffer, m')) :
      Advance p c m .stageOutput .done
        { c with
          stage := .staged
          output := some buffer
          params := { c.params with spaceOut := .hostDram, addrOut := buffer.addr } } m'
  | session {session : Session σ} {m' : Machine σ}
      (hacquire : Session.acquire p c.options.backend c.options.card c.options.irq m =
        (.ok session, m')) :
      Advance p c m .acquireSession .done
        { c with stage := .sessionOpen, session := some session } m'
  | executed {job done : Job} {m' : Machine σ} (hjob : jobOf c.params = .ok job)
      (hsubmit : submit c.session job c.options.timeout (m.noteAll [preparation]) =
        (.ok (), done, m')) :
      Advance p c m .execute .done { c with stage := .executed, job := some done }
        (m'.note .debug .client ("job finished with retc 0x" ++ Text.hex done.retc.toNat ++
          " after " ++ Text.elapsed p.jobTime))
  | written {path : Path} {buffer : HostBuffer} {m' : Machine σ}
      (hpath : c.options.output = some path) (hbuffer : c.output = some buffer)
      (hwrite : (m.note .info .client ("writing output data " ++
        Machine.showAddress buffer.addr ++ " " ++ toString c.params.size ++ " bytes to " ++
        path.quoted)).writeFile path ((m.contents buffer).take c.params.size) = (.ok (), m')) :
      Advance p c m .writeOutput .done c m'
  | unwritten (h : c.options.output = none ∨ c.output = none) :
      Advance p c m .writeOutput .done c m
  | returnCode {job : Job} (hjob : c.job = some job) (hretc : job.retc = Job.success) :
      Advance p c m .checkReturnCode (.returnCode job.retc) c m
  | compared {input output : HostBuffer} (hverify : c.options.verify = true)
      (hspaces : c.params.spaceIn = .hostDram ∧ c.params.spaceOut = .hostDram)
      (hinput : c.input = some input) (houtput : c.output = some output) :
      Advance p c m .verify
        (.verification (Verification.compare (m.contents input).toList (m.contents output).toList))
        { c with stage := .verified }
        (if (Verification.compare (m.contents input).toList (m.contents output).toList).failed then
          (m.noteAll (Verification.report (m.contents input).toList
            (m.contents output).toList)).note .error .client "verification failed"
        else m.noteAll (Verification.report (m.contents input).toList
          (m.contents output).toList))
  | skipped {m' : Machine σ} (h : c.options.verify = false ∨ c.input = none ∨ c.output = none ∨
        c.params.spaceIn ≠ .hostDram ∨ c.params.spaceOut ≠ .hostDram)
      (hm : m' = m ∨
        m' = m.note .warn .client "Verification works currently only with HOST_DRAM") :
      Advance p c m .verify (.verification .skipped) { c with stage := .skipped } m'

/-- The ways in which a step fails: the error, and the machine before the client is torn down. -/
inductive Setback (p : Platform σ) (c : Client σ) (m : Machine σ) :
    Step → Error → Machine σ → Prop
  | input {path : Path} {e : Error} {m' : Machine σ} (hinput : c.options.input = some path)
      (hload : loadFile p path m = (.error e, m')) : Setback p c m .stageInput e m'
  | oversized (hsize : UInt32.size ≤ c.params.size) :
      Setback p c m .stageOutput (.argument (.oversized c.params.size)) m
  | output {e : Error} {m' : Machine σ} (hsize : c.params.size < UInt32.size)
      (houtput : c.options.stagesOutput = true)
      (hbuffer : outputBuffer p c.params.size c.options.guardLength m = (.error e, m')) :
      Setback p c m .stageOutput e m'
  | session {e : Error} {m' : Machine σ}
      (hacquire : Session.acquire p c.options.backend c.options.card c.options.irq m =
        (.error e, m')) :
      Setback p c m .acquireSession e m'
  | job {e : Error} (hjob : jobOf c.params = .error e) :
      Setback p c m .execute e (m.noteAll [preparation])
  | execution {job done : Job} {e : Error} {m' : Machine σ} (hjob : jobOf c.params = .ok job)
      (hsubmit : submit c.session job c.options.timeout (m.noteAll [preparation]) =
        (.error e, done, m')) :
      Setback p c m .execute e m'
  | write {path : Path} {buffer : HostBuffer} {e : Error} {m' : Machine σ}
      (hpath : c.options.output = some path) (hbuffer : c.output = some buffer)
      (hwrite : (m.note .info .client ("writing output data " ++
        Machine.showAddress buffer.addr ++ " " ++ toString c.params.size ++ " bytes to " ++
        path.quoted)).writeFile path ((m.contents buffer).take c.params.size) = (.error e, m')) :
      Setback p c m .writeOutput e m'
  | noJob (hjob : c.job = none) : Setback p c m .checkReturnCode (.returnCode 0) m
  | returnCode {job : Job} (hjob : c.job = some job) (hretc : job.retc ≠ Job.success) :
      Setback p c m .checkReturnCode (.returnCode job.retc) m

/-- An answer to a step is an advance or a setback. -/
def Moves (p : Platform σ) (c : Client σ) (m : Machine σ) (step : Step) (t : Turn σ Answer) :
    Prop :=
  (∃ e m', Setback p c m step e m' ∧ t = c.fail e m') ∨
    ∃ a c' m', Advance p c m step a c' m' ∧ t = (.ok a, c', m')

variable {p : Platform σ} {c : Client σ} {m : Machine σ}

theorem Moves.setback {step : Step} {e : Error} {m' : Machine σ} (h : Setback p c m step e m') :
    Moves p c m step (c.fail e m') :=
  Or.inl ⟨e, m', h, rfl⟩

theorem Moves.advance {step : Step} {a : Answer} {c' : Client σ} {m' : Machine σ}
    (h : Advance p c m step a c' m') : Moves p c m step (.ok a, c', m') :=
  Or.inr ⟨a, c', m', h, rfl⟩

/-- A step comes to the same whatever form its result is put in. -/
theorem eq_of_map_eq_ok {f : α → β} {t : Turn σ α} {b : β} (h : t.map f = (.ok b, c, m)) :
    ∃ a, t = (.ok a, c, m) ∧ f a = b := by
  obtain ⟨e | a, c', m'⟩ := t
  · cases h
  · cases h
    exact ⟨a, rfl, rfl⟩

theorem eq_of_map_eq_error {f : α → β} {t : Turn σ α} {e : Error}
    (h : t.map f = (.error e, c, m)) : t = (.error e, c, m) := by
  obtain ⟨e' | a, c', m'⟩ := t
  · cases h
    rfl
  · cases h

theorem moves_stageInput (h : c.stage = .unconfigured) :
    Moves p c m .stageInput (c.answerStep p m .stageInput) := by
  rw [answerStep, stageInput, inStage, if_pos (by exact h)]
  cases hinput : c.options.input with
  | none => exact Moves.advance (Advance.noInput hinput)
  | some path =>
      rcases hload : loadFile p path m with ⟨e | buffer, m'⟩ <;> simp only [hload]
      · exact Moves.setback (Setback.input hinput hload)
      · exact Moves.advance (Advance.input hinput hload)

theorem moves_stageOutput (h : c.stage = .inputStaged) :
    Moves p c m .stageOutput (c.answerStep p m .stageOutput) := by
  rw [answerStep, stageOutput, inStage, if_pos (by exact h)]
  cases hsize : descriptorLength c.params.size with
  | none => exact Moves.setback (Setback.oversized ((descriptorLength_eq_none_iff _).1 hsize))
  | some n =>
      have hlt : c.params.size < UInt32.size := by
        rw [← descriptorLength_eq_some_iff.1 hsize]
        exact n.toNat_lt
      cases houtput : c.options.stagesOutput with
      | false => exact Moves.advance (Advance.noOutput hlt houtput)
      | true =>
          rcases hbuffer : outputBuffer p c.params.size c.options.guardLength m with
            ⟨e | buffer, m'⟩
          · exact Moves.setback (Setback.output hlt houtput hbuffer)
          · exact Moves.advance (Advance.output hlt houtput hbuffer)

theorem moves_acquireSession (h : c.stage = .staged) :
    Moves p c m .acquireSession (c.answerStep p m .acquireSession) := by
  rw [answerStep, acquireSession, inStage, if_pos (by exact h)]
  rcases hacquire : Session.acquire p c.options.backend c.options.card c.options.irq m with
    ⟨e | session, m'⟩
  · exact Moves.setback (Setback.session hacquire)
  · exact Moves.advance (Advance.session hacquire)

theorem moves_execute (h : c.stage = .sessionOpen) :
    Moves p c m .execute (c.answerStep p m .execute) := by
  rw [answerStep, execute, inStage, if_pos (by exact h)]
  cases hjob : jobOf c.params with
  | error e => exact Moves.setback (Setback.job hjob)
  | ok job =>
      rcases hsubmit : submit c.session job c.options.timeout (m.noteAll [preparation]) with
        ⟨e | _, done, m'⟩ <;> simp only [hsubmit]
      · exact Moves.setback (Setback.execution hjob hsubmit)
      · exact Moves.advance (Advance.executed hjob hsubmit)

theorem moves_writeOutput (h : c.stage = .executed) :
    Moves p c m .writeOutput (c.answerStep p m .writeOutput) := by
  rw [answerStep, writeOutput, inStage, if_pos (by exact h)]
  cases hpath : c.options.output with
  | none => exact Moves.advance (Advance.unwritten (Or.inl hpath))
  | some path =>
      cases hbuffer : c.output with
      | none => exact Moves.advance (Advance.unwritten (Or.inr hbuffer))
      | some buffer =>
          simp only
          split
          · next hwrite => exact Moves.setback (Setback.write hpath hbuffer hwrite)
          · next hwrite => exact Moves.advance (Advance.written hpath hbuffer hwrite)

theorem moves_checkReturnCode (h : c.stage = .executed) :
    Moves p c m .checkReturnCode (c.answerStep p m .checkReturnCode) := by
  rw [answerStep, checkReturnCode, inStage, if_pos (by exact h)]
  cases hjob : c.job with
  | none => exact Moves.setback (Setback.noJob hjob)
  | some job =>
      by_cases hretc : job.retc = Job.success
      · simp only [Job.succeeded, hretc, beq_self_eq_true, if_true]
        exact hretc ▸ Moves.advance (Advance.returnCode hjob hretc)
      · simp only [Job.succeeded, beq_false_of_ne hretc]
        exact Moves.setback (Setback.returnCode hjob hretc)

theorem moves_verify (h : c.stage = .executed) :
    Moves p c m .verify (c.answerStep p m .verify) := by
  rw [answerStep, verify, inStage, if_pos (by exact h)]
  cases hverify : c.options.verify with
  | false => exact Moves.advance (Advance.skipped (Or.inl hverify) (Or.inl rfl))
  | true =>
      simp only [if_true]
      split
      · next hin hout hinput houtput =>
          exact Moves.advance (Advance.compared hverify ⟨hin, hout⟩ hinput houtput)
      · next hnot =>
          refine Moves.advance (Advance.skipped (Or.inr ?_) (Or.inr rfl))
          cases hinput : c.input with
          | none => exact Or.inl rfl
          | some input =>
              cases houtput : c.output with
              | none => exact Or.inr (Or.inl rfl)
              | some output =>
                  refine Or.inr (Or.inr ?_)
                  by_contra hspaces
                  rw [not_or, not_not, not_not] at hspaces
                  exact hnot input output hspaces.1 hspaces.2 hinput houtput

/-- **An allowed step is an advance or a setback.** -/
theorem answerStep_cases {step : Step} (h : c.stage = step.requires) :
    Moves p c m step (c.answerStep p m step) := by
  cases step with
  | stageInput => exact moves_stageInput h
  | stageOutput => exact moves_stageOutput h
  | acquireSession => exact moves_acquireSession h
  | execute => exact moves_execute h
  | writeOutput => exact moves_writeOutput h
  | checkReturnCode => exact moves_checkReturnCode h
  | verify => exact moves_verify h

/-! ### What every move keeps -/

/-- A property of client and machine that every move keeps: an advance keeps it, and a teardown
does, also the one that follows a setback. -/
structure Preserved (p : Platform σ) (P : Client σ → Machine σ → Prop) : Prop where
  advance : ∀ {c m step a c' m'}, c.stage = step.requires → P c m → Advance p c m step a c' m' →
    P c' m'
  setback : ∀ {c m step e m'}, c.stage = step.requires → P c m → Setback p c m step e m' →
    P (c.fail e m' : Turn σ Answer).2.1 (c.fail e m' : Turn σ Answer).2.2
  teardown : ∀ {c m}, P c m → P (c.teardown m).1 (c.teardown m).2

namespace Preserved

variable {P : Client σ → Machine σ → Prop}

theorem answerStep (hP : Preserved p P) (h : P c m) (step : Step) :
    P (c.answerStep p m step).2.1 (c.answerStep p m step).2.2 := by
  by_cases hstage : c.stage = step.requires
  · rcases answerStep_cases hstage with ⟨e, m', hset, heq⟩ | ⟨a, c', m', hadv, heq⟩
    · rw [heq]
      exact hP.setback hstage h hset
    · rw [heq]
      exact hP.advance hstage h hadv
  · have hrefused := answer_of_ne_requires (p := p) (m := m) hstage
    rw [answer] at hrefused
    rw [hrefused]
    exact h

/-- One step after another keeps what both keep. -/
theorem andThen {t : Turn σ α} {f : α → Client σ → Machine σ → Turn σ β} (ht : P t.2.1 t.2.2)
    (hf : ∀ a c m, P c m → P (f a c m).2.1 (f a c m).2.2) :
    P (t.andThen f).2.1 (t.andThen f).2.2 := by
  obtain ⟨e | a, c, m⟩ := t
  · exact ht
  · exact hf a c m ht

theorem finish (hP : Preserved p P) (h : P c m) :
    P (c.finish p m).2.1 (c.finish p m).2.2 := by
  refine andThen (hP.answerStep h .acquireSession) fun _ c m h => ?_
  refine andThen (hP.answerStep h .execute) fun _ c m h => ?_
  refine andThen (hP.answerStep h .writeOutput) fun _ c m h => ?_
  refine andThen (hP.answerStep h .checkReturnCode) fun _ c m h => ?_
  exact andThen (hP.answerStep h .verify) fun _ c m h => h

/-- What every move keeps is kept by every call. -/
theorem answer (hP : Preserved p P) (h : P c m) (call : Call) :
    P (c.answer p m call).2.1 (c.answer p m call).2.2 := by
  cases call with
  | step step => exact hP.answerStep h step
  | complete => exact hP.teardown (hP.finish h)
  | teardown => exact hP.teardown h

/-- **What every move keeps is kept by any number of calls in any order.** -/
theorem afterCalls (hP : Preserved p P) (h : P c m) (calls : List Call) :
    P (afterCalls p calls c m).1 (afterCalls p calls c m).2 := by
  induction calls generalizing c m with
  | nil => exact h
  | cons call calls ih =>
      rw [afterCalls_cons]
      exact ih (hP.answer h call)

end Preserved

end Client

end Offload
