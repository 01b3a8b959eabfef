/-
**Calls on a client.**

Whoever holds a client may call it in any order: each of the seven steps, all that follows staging
at once, or the teardown.  A call answers and leaves a client and a machine for the next call, also
when it fails.

Main definitions:

* `Client.Call`, `Client.Answer` — what can be asked of a client, and what it answers;
* `Client.answer` — one call;
* `Client.afterCalls` — the client and the machine after any number of calls.

Main results:

* `Client.answer_of_ne_requires` — **a step out of order changes nothing**;
* `Client.afterCalls_append` — calls one after another.
-/

import Offload.Client

set_option relaxedAutoImplicit false
set_option autoImplicit false

namespace Offload

variable {σ α β : Type}

/-- The same turn, with its result put in another form. -/
def Turn.map (f : α → β) (t : Turn σ α) : Turn σ β := (t.1.map f, t.2.1, t.2.2)

namespace Client

/-- What can be asked of a client. -/
inductive Call where
  | step (step : Step)
  | complete
  | teardown
  deriving DecidableEq, Repr

/-- What a client answers when a call succeeds. -/
inductive Answer where
  | done
  | returnCode (retc : UInt32)
  | verification (v : Verification)
  | report (r : RunReport)
  deriving DecidableEq, Repr

/-- The client does a step. -/
def answerStep (p : Platform σ) (c : Client σ) (m : Machine σ) : Step → Turn σ Answer
  | .stageInput => (c.stageInput p m).map fun _ => .done
  | .stageOutput => (c.stageOutput p m).map fun _ => .done
  | .acquireSession => (c.acquireSession p m).map fun _ => .done
  | .execute => (c.execute p m).map fun _ => .done
  | .writeOutput => (c.writeOutput m).map fun _ => .done
  | .checkReturnCode => (c.checkReturnCode m).map .returnCode
  | .verify => (c.verify m).map .verification

/-- The client answers a call. -/
def answer (p : Platform σ) (c : Client σ) (m : Machine σ) : Call → Turn σ Answer
  | .step step => c.answerStep p m step
  | .complete => (c.complete p m).map .report
  | .teardown => (.ok .done, c.teardown m)

/-- The client and the machine after calls, whatever was answered. -/
def afterCalls (p : Platform σ) (calls : List Call) (c : Client σ) (m : Machine σ) :
    Client σ × Machine σ :=
  calls.foldl (fun s call => (s.1.answer p s.2 call).2) (c, m)

/-- A step that the client's stage does not allow is refused and changes nothing. -/
theorem answer_of_ne_requires {p : Platform σ} {c : Client σ} {m : Machine σ} {step : Step}
    (h : c.stage ≠ step.requires) :
    c.answer p m (.step step) = (.error (.internal (.outOfOrder step c.stage)), c, m) := by
  cases step <;>
    simp only [Step.requires, ne_eq] at h <;>
    simp [answer, answerStep, stageInput, stageOutput, acquireSession, execute, writeOutput,
      checkReturnCode, verify, inStage, Step.requires, h, Turn.map, Except.map]

@[simp] theorem afterCalls_nil (p : Platform σ) (c : Client σ) (m : Machine σ) :
    afterCalls p [] c m = (c, m) := rfl

theorem afterCalls_cons (p : Platform σ) (call : Call) (calls : List Call) (c : Client σ)
    (m : Machine σ) :
    afterCalls p (call :: calls) c m =
      afterCalls p calls (c.answer p m call).2.1 (c.answer p m call).2.2 := rfl

theorem afterCalls_append (p : Platform σ) (first rest : List Call) (c : Client σ)
    (m : Machine σ) :
    afterCalls p (first ++ rest) c m =
      afterCalls p rest (afterCalls p first c m).1 (afterCalls p first c m).2 := by
  simp [afterCalls, List.foldl_append]

end Client

end Offload
