/-
**Steps are done in full or not at all.**

A step that the client's stage does not allow is refused, and nothing is touched.  A step that is
allowed takes the client to the next stage, or it fails, and then the client has let go of
everything.  A client that has failed or was torn down stays so, whatever it is asked.

Main definitions:

* `Step.successor` — the stage after a step that succeeded;
* `Client.HoldsNothing` — the client has neither a session nor a buffer;
* `Turn.Ends` — the stage after a turn, by whether it succeeded.

Main results:

* `Client.answerStep_outcome` — an allowed step succeeds or leaves the client failed;
* `Client.stage_afterCalls_of_closed` — **the last two stages are never left**;
* `Client.complete_of_ne_staged` — out of its stage, completing is nothing but tearing down;
* `Client.steps_atomic` — all of this together.
-/

import Offload.Proofs.Client.Release
import Offload.Proofs.Verification

set_option relaxedAutoImplicit false
set_option autoImplicit false

namespace Offload

variable {σ α β : Type}

/-- The stage after a step that succeeded with an answer. -/
def Step.successor : Step → Client.Answer → Stage
  | .stageInput, _ => .inputStaged
  | .stageOutput, _ => .staged
  | .acquireSession, _ => .sessionOpen
  | .execute, _ => .executed
  | .writeOutput, _ => .executed
  | .checkReturnCode, _ => .executed
  | .verify, .verification .skipped => .skipped
  | .verify, _ => .verified

/-- After the turn the client is in a stage of the given kind if the turn succeeded, and has failed
if it did not. -/
def Turn.Ends (S : Stage → Prop) (t : Turn σ α) : Prop :=
  match t.1 with
  | .ok _ => S t.2.1.stage
  | .error _ => t.2.1.stage = .failed

theorem Turn.Ends.andThen {S S' : Stage → Prop} {t : Turn σ α}
    {f : α → Client σ → Machine σ → Turn σ β} (ht : t.Ends S)
    (hf : ∀ a c m, S c.stage → (f a c m).Ends S') : (t.andThen f).Ends S' := by
  obtain ⟨e | a, c, m⟩ := t
  · exact ht
  · exact hf a c m ht

theorem Turn.ends_map {S : Stage → Prop} {f : α → β} {t : Turn σ α} :
    (t.map f).Ends S ↔ t.Ends S := by
  obtain ⟨e | a, c, m⟩ := t <;> rfl

namespace Client

variable {p : Platform σ} {c c' : Client σ} {m m' : Machine σ} {step : Step} {a : Answer}

/-- The client has neither a session nor a buffer. -/
def HoldsNothing (c : Client σ) : Prop := c.session = none ∧ c.input = none ∧ c.output = none

/-! ### Steps -/

theorem stage_of_advance (hstage : c.stage = step.requires) (h : Advance p c m step a c' m') :
    c'.stage = step.successor a := by
  cases h with
  | noInput hinput => rfl
  | input hinput hload => rfl
  | noOutput hsize houtput => rfl
  | output hsize houtput hbuffer => rfl
  | session hacquire => rfl
  | executed hjob hsubmit => rfl
  | written hpath hbuffer hwrite => exact hstage
  | unwritten hnone => exact hstage
  | returnCode hjob hretc => exact hstage
  | @compared input output hverify hspaces hinput houtput =>
      rcases Verification.compare_eq (m.contents input).toList (m.contents output).toList with
        hpassed | hmismatch
      · rw [hpassed]
        rfl
      · rw [hmismatch]
        rfl
  | skipped hwhy hm => rfl

theorem holdsNothing_teardown (c : Client σ) (m : Machine σ) :
    (c.teardown m).1.HoldsNothing :=
  ⟨rfl, rfl, rfl⟩

/-- **An allowed step takes the client to the next stage, or it fails, and then the client holds
nothing.** -/
theorem answerStep_outcome (hstage : c.stage = step.requires) :
    (∃ a c' m', c.answer p m (.step step) = (.ok a, c', m') ∧ c'.stage = step.successor a) ∨
      ∃ e c' m', c.answer p m (.step step) = (.error e, c', m') ∧ c'.stage = .failed ∧
        c'.HoldsNothing := by
  rcases answerStep_cases hstage with ⟨e, m', -, heq⟩ | ⟨a, c', m', hadv, heq⟩
  · exact Or.inr ⟨e, _, _, heq, stage_fail (α := Answer) e c m', holdsNothing_teardown _ m'⟩
  · exact Or.inl ⟨a, c', m', heq, stage_of_advance hstage hadv⟩

theorem ends_answerStep {S : Stage → Prop} (step : Step) (hstage : c.stage = step.requires)
    (hS : ∀ a, S (step.successor a)) : (c.answerStep p m step).Ends S := by
  rcases answerStep_outcome (p := p) (m := m) hstage with
    ⟨a, c', m', heq, hnext⟩ | ⟨e, c', m', heq, hfailed, -⟩
  · rw [answer] at heq
    rw [heq]
    show S c'.stage
    rw [hnext]
    exact hS a
  · rw [answer] at heq
    rw [heq]
    exact hfailed

/-! ### Completing -/

/-- The steps that follow staging end with a comparison, made or skipped, or with a failure. -/
theorem ends_finish (hstage : c.stage = .staged) :
    (c.finish p m).Ends fun s => s = .verified ∨ s = .skipped := by
  rw [finish]
  refine Turn.Ends.andThen (S := (· = .sessionOpen)) ?_ fun _ c m hopen => ?_
  · exact Turn.ends_map.1 (ends_answerStep .acquireSession hstage fun _ => rfl)
  refine Turn.Ends.andThen (S := (· = .executed)) ?_ fun _ c m hran => ?_
  · exact Turn.ends_map.1 (ends_answerStep .execute hopen fun _ => rfl)
  refine Turn.Ends.andThen (S := (· = .executed)) ?_ fun _ c m hwrote => ?_
  · exact Turn.ends_map.1 (ends_answerStep (p := p) .writeOutput hran fun _ => rfl)
  refine Turn.Ends.andThen (S := (· = .executed)) ?_ fun retc c m hchecked => ?_
  · exact Turn.ends_map.1 (ends_answerStep (p := p) .checkReturnCode hwrote
      fun _ => rfl)
  refine Turn.Ends.andThen (S := fun s => s = .verified ∨ s = .skipped) ?_
    fun _ c m hverified => hverified
  refine Turn.ends_map.1 (ends_answerStep (p := p) .verify hchecked fun a => ?_)
  rcases a with - | retc | v | report
  · exact Or.inl rfl
  · exact Or.inl rfl
  · cases v
    · exact Or.inl rfl
    · exact Or.inl rfl
    · exact Or.inr rfl
  · exact Or.inl rfl

theorem stage_teardown (c : Client σ) (m : Machine σ) :
    (c.teardown m).1.stage = .tornDown ∨ (c.teardown m).1.stage = .failed := by
  by_cases h : c.stage = .failed
  · exact Or.inr (if_pos h)
  · exact Or.inl (if_neg h)

/-- A staged client that is completed is torn down if that succeeds, and has failed otherwise. -/
theorem ends_complete (hstage : c.stage = .staged) :
    (c.complete p m).Ends (· = .tornDown) := by
  have hfinish := ends_finish (p := p) (m := m) hstage
  rw [complete]
  generalize c.finish p m = t at hfinish
  obtain ⟨e | report, c', m'⟩ := t
  · exact if_pos hfinish
  · refine if_neg ?_
    rcases hfinish with h | h <;> rw [h] <;> decide

/-- **Out of its stage, completing is refused, and the client is only torn down.** -/
theorem complete_of_ne_staged (hstage : c.stage ≠ .staged) :
    c.complete p m =
      (.error (.internal (.outOfOrder .acquireSession c.stage)), c.teardown m) := by
  have hrefused : c.acquireSession p m =
      (.error (.internal (.outOfOrder .acquireSession c.stage)), c, m) := by
    rw [acquireSession, inStage, if_neg (by exact hstage)]
  rw [complete, finish, hrefused]
  rfl

/-! ### The end -/

theorem stage_teardown_of_closed (hclosed : c.stage = .failed ∨ c.stage = .tornDown)
    (m : Machine σ) : (c.teardown m).1.stage = c.stage := by
  rcases hclosed with h | h <;> simp [teardown, h]

/-- No call takes a client out of the last two stages. -/
theorem stage_answer_of_closed (hclosed : c.stage = .failed ∨ c.stage = .tornDown) (call : Call) :
    (c.answer p m call).2.1.stage = c.stage := by
  cases call with
  | step step =>
      have hne : c.stage ≠ step.requires := by
        rcases hclosed with h | h <;> rw [h] <;> cases step <;> decide
      rw [answer_of_ne_requires hne]
  | complete =>
      have hne : c.stage ≠ .staged := by
        rcases hclosed with h | h <;> rw [h] <;> decide
      rw [answer, complete_of_ne_staged hne]
      exact stage_teardown_of_closed hclosed m
  | teardown => exact stage_teardown_of_closed hclosed m

/-- **No calls take a client out of the last two stages.** -/
theorem stage_afterCalls_of_closed (hclosed : c.stage = .failed ∨ c.stage = .tornDown)
    (calls : List Call) : (afterCalls p calls c m).1.stage = c.stage := by
  induction calls generalizing c m with
  | nil => rfl
  | cons call calls ih =>
      have hstage := stage_answer_of_closed (p := p) (m := m) hclosed call
      rw [afterCalls_cons, ih (hstage ▸ hclosed), hstage]

/-! ### What a teardown asks of the cards -/

/-- A teardown opens no card. -/
theorem exists_events_teardown (c : Client σ) (m : Machine σ) :
    ∃ new, (c.teardown m).2.events = m.events ++ new ∧
      ∀ backend device succeeded, Event.card backend (.openCard device) succeeded ∉ new := by
  have hfreed : ∀ backend device succeeded, Event.card backend (.openCard device) succeeded ∉
      c.buffers.reverse.map Event.freed := by simp
  rw [events_teardown]
  rcases c.session with - | ⟨- | action, - | card⟩
  · exact ⟨_, rfl, hfreed⟩
  · exact ⟨_, rfl, hfreed⟩
  · exact ⟨_, List.append_assoc _ _ _, by simp⟩
  · exact ⟨_, List.append_assoc _ _ _, by simp⟩
  · refine ⟨.card action.backend.name .detach true :: .card card.backend.name .release true ::
      c.buffers.reverse.map Event.freed, ?_, by simp⟩
    simp [releaseSession, Session.release, Session.releaseAction, Session.releaseCard,
      Machine.detach, Machine.release, Machine.noteCall]

/-- **Steps are done in full or not at all, and a client that has come to its end stays there.**
A step out of its stage is refused and changes neither the client nor anything on the machine.  A
step in its stage takes the client to the next one, or it fails, and the client has let go of
everything.  The last two stages are never left.  Completing always ends with a client that holds
nothing, torn down if it succeeded and failed if it did not; out of its stage it is refused, and
then it writes no file and opens no card. -/
theorem steps_atomic (p : Platform σ) (c : Client σ) (m : Machine σ) :
    (∀ step, c.stage ≠ step.requires →
      c.answer p m (.step step) = (.error (.internal (.outOfOrder step c.stage)), c, m)) ∧
    (∀ step, c.stage = step.requires →
      (∃ a c' m', c.answer p m (.step step) = (.ok a, c', m') ∧ c'.stage = step.successor a) ∨
        ∃ e c' m', c.answer p m (.step step) = (.error e, c', m') ∧ c'.stage = .failed ∧
          c'.HoldsNothing) ∧
    ((c.stage = .failed ∨ c.stage = .tornDown) →
      ∀ calls, (afterCalls p calls c m).1.stage = c.stage) ∧
    let result := (c.complete p m).1
    let c' := (c.complete p m).2.1
    let m' := (c.complete p m).2.2
    c'.HoldsNothing ∧ (c'.stage = .tornDown ∨ c'.stage = .failed) ∧
      (c.stage = .staged → ((∃ report, result = .ok report) ↔ c'.stage = .tornDown)) ∧
      (c.stage ≠ .staged →
        result = .error (.internal (.outOfOrder .acquireSession c.stage)) ∧
          m'.files = m.files ∧
          ∃ new, m'.events = m.events ++ new ∧
            ∀ backend device succeeded,
              Event.card backend (.openCard device) succeeded ∉ new) := by
  refine ⟨fun step => answer_of_ne_requires, fun step => answerStep_outcome,
    stage_afterCalls_of_closed, holdsNothing_teardown _ _, stage_teardown _ _, ?_, ?_⟩
  · intro hstage
    have hends := ends_complete (p := p) (m := m) hstage
    generalize c.complete p m = t at hends
    obtain ⟨e | report, c', m'⟩ := t
    · have hfailed : c'.stage = .failed := hends
      simp [hfailed]
    · have htorn : c'.stage = .tornDown := hends
      simp [htorn]
  · intro hstage
    rw [complete_of_ne_staged hstage]
    exact ⟨rfl, files_teardown c m, exists_events_teardown c m⟩

end Client

end Offload
