/-
**What a backend hears.**

A backend is called with the numbers that it gave to its cards and actions, and all that it knows of
earlier calls is in its state.  So the calls that have reached it can be told by this state: it is
the one to which just these calls lead, one after the other.  A backend that keeps a list of what it
hears is only a special case.

Main definitions:

* `Heard` — a call as it reaches a backend, with its answer;
* `Backend.Hears`, `Backend.HearsAll` — a backend hears a call, or one call after the other;
* `Backend.recording` — the backend that does the same and keeps a list of what it hears;
* `Platform.Hears` — the backend of a name hears calls.

Main results:

* `Backend.HearsAll.append`, `Platform.Hears.append` — calls that follow one another;
* `Platform.Hears.recorded` — **a backend that keeps a list has heard what is on it**, and nothing
  else.
-/

import Offload.Machine

set_option relaxedAutoImplicit false
set_option autoImplicit false

namespace Offload

variable {σ : Type}

/-- A call as it reaches a backend.  The answer is the number of a card or an action, unless the
call failed, or it is whether the call succeeded. -/
inductive Heard where
  | openCard (device : String) (card : Option Nat)
  | attach (card : Nat) (device : String) (attachment : Attachment) (action : Option Nat)
  | assignInterrupt (action : Nat) (source : UInt32) (succeeded : Bool)
  | execute (action : Nat) (job : Job) (timeout : Nat) (host : HostMemory) (succeeded : Bool)
  | detach (action : Nat)
  | release (card : Nat) (device : String)

/-- What the machine puts on record of a call. -/
def Heard.event (backend : String) : Heard → Event
  | openCard device card => .card backend (.openCard device) card.isSome
  | attach _ _ attachment action => .card backend (.attach attachment) action.isSome
  | assignInterrupt _ source succeeded => .card backend (.assignInterrupt source) succeeded
  | execute _ job timeout _ succeeded => .card backend (.execute job timeout) succeeded
  | detach _ => .card backend .detach true
  | release _ _ => .card backend .release true

/-! ### Backends -/

namespace Backend

open Machine (succeeded)

variable {b : Backend σ} {s s' s'' : σ} {call : Heard} {calls calls' : List Heard}

/-- The backend hears a call in one state, answers it as the call says, and is in another state
then. -/
inductive Hears (b : Backend σ) : σ → Heard → σ → Prop
  | openCard (device : String) (s : σ) :
      Hears b s (.openCard device (b.openCard device s).result.toOption) (b.openCard device s).state
  | attach (card : Nat) (device : String) (a : Attachment) (s : σ) :
      Hears b s (.attach card device a (b.attach card device a s).result.toOption)
        (b.attach card device a s).state
  | assignInterrupt (action : Nat) (source : UInt32) (s : σ) :
      Hears b s (.assignInterrupt action source
        (succeeded (b.assignInterrupt action source s).result))
        (b.assignInterrupt action source s).state
  | execute (action : Nat) (job : Job) (timeout : Nat) (host : HostMemory) (s : σ) :
      Hears b s (.execute action job timeout host
        (succeeded (b.execute action job timeout host s).result))
        (b.execute action job timeout host s).state
  | detach (action : Nat) (s : σ) : Hears b s (.detach action) (b.detach action s).1
  | release (card : Nat) (device : String) (s : σ) :
      Hears b s (.release card device) (b.release card device s).1

/-- The backend hears calls, one after the other. -/
inductive HearsAll (b : Backend σ) : σ → List Heard → σ → Prop
  | nil (s : σ) : HearsAll b s [] s
  | cons {s s' s'' : σ} {call : Heard} {calls : List Heard} (first : b.Hears s call s')
      (rest : HearsAll b s' calls s'') : HearsAll b s (call :: calls) s''

theorem Hears.all (h : b.Hears s call s') : b.HearsAll s [call] s' := .cons h (.nil s')

theorem HearsAll.append (h : b.HearsAll s calls s') (h' : b.HearsAll s' calls' s'') :
    b.HearsAll s (calls ++ calls') s'' := by
  induction h with
  | nil => exact h'
  | cons first _ ih => exact .cons first (ih h')

/-- The backend that does the same and keeps a list of what it hears. -/
def recording (b : Backend σ) : Backend (σ × List Heard) where
  name := b.name
  openCard device t :=
    let r := b.openCard device t.1
    ⟨r.result, (r.state, t.2 ++ [.openCard device r.result.toOption]), r.log⟩
  attach card device a t :=
    let r := b.attach card device a t.1
    ⟨r.result, (r.state, t.2 ++ [.attach card device a r.result.toOption]), r.log⟩
  assignInterrupt action source t :=
    let r := b.assignInterrupt action source t.1
    ⟨r.result, (r.state, t.2 ++ [.assignInterrupt action source (succeeded r.result)]), r.log⟩
  execute action job timeout host t :=
    let e := b.execute action job timeout host t.1
    ⟨e.result, e.retc, e.writes,
      (e.state, t.2 ++ [.execute action job timeout host (succeeded e.result)]), e.log⟩
  detach action t :=
    let (state, log) := b.detach action t.1
    ((state, t.2 ++ [.detach action]), log)
  release card device t :=
    let (state, log) := b.release card device t.1
    ((state, t.2 ++ [.release card device]), log)

theorem Hears.recorded {t t' : σ × List Heard} (h : b.recording.Hears t call t') :
    t'.2 = t.2 ++ [call] ∧ b.Hears t.1 call t'.1 := by
  cases h with
  | openCard device => exact ⟨rfl, .openCard device t.1⟩
  | attach card device a => exact ⟨rfl, .attach card device a t.1⟩
  | assignInterrupt action source => exact ⟨rfl, .assignInterrupt action source t.1⟩
  | execute action job timeout host => exact ⟨rfl, .execute action job timeout host t.1⟩
  | detach action => exact ⟨rfl, .detach action t.1⟩
  | release card device => exact ⟨rfl, .release card device t.1⟩

/-- **A backend that keeps a list has heard what is on it.** -/
theorem HearsAll.recorded {t t' : σ × List Heard} (h : b.recording.HearsAll t calls t') :
    t'.2 = t.2 ++ calls ∧ b.HearsAll t.1 calls t'.1 := by
  induction h with
  | nil => exact ⟨(List.append_nil _).symm, .nil _⟩
  | cons first _ ih =>
      obtain ⟨hlist, hrest⟩ := ih
      obtain ⟨hone, hfirst⟩ := first.recorded
      refine ⟨?_, .cons hfirst hrest⟩
      rw [hlist, hone, List.append_assoc]
      rfl

end Backend

/-! ### Platforms -/

namespace Platform

variable {p : Platform σ} {name : String} {b : Backend σ} {s s' s'' : σ}
  {calls calls' : List Heard}

/-- The backend that is registered under a name. -/
def backend? (p : Platform σ) (name : String) : Option (Backend σ) :=
  p.backends.bind fun backends => backends.find? fun b => b.name == name

theorem name_of_backend? (h : p.backend? name = some b) : b.name = name := by
  obtain ⟨backends, -, hfind⟩ := Option.bind_eq_some_iff.1 h
  simpa using List.find?_some hfind

/-- The backend of a name hears calls, one after the other.  If there is none, nobody hears
anything. -/
def Hears (p : Platform σ) (name : String) (s : σ) (calls : List Heard) (s' : σ) : Prop :=
  match p.backend? name with
  | some b => b.HearsAll s calls s'
  | none => calls = [] ∧ s' = s

theorem hears_iff (h : p.backend? name = some b) :
    p.Hears name s calls s' ↔ b.HearsAll s calls s' := by
  rw [Hears, h]

theorem hears_nil (p : Platform σ) (name : String) (s : σ) : p.Hears name s [] s := by
  rw [Hears]
  cases p.backend? name with
  | none => exact ⟨rfl, rfl⟩
  | some b => exact .nil s

theorem Hears.append (h : p.Hears name s calls s') (h' : p.Hears name s' calls' s'') :
    p.Hears name s (calls ++ calls') s'' := by
  rw [Hears] at h h' ⊢
  cases hb : p.backend? name with
  | none =>
      rw [hb] at h h'
      obtain ⟨rfl, rfl⟩ := h
      exact h'
  | some b =>
      rw [hb] at h h'
      exact Backend.HearsAll.append h h'

/-- The platform on which every backend keeps a list of what it hears. -/
def recording (p : Platform σ) : Platform (σ × List Heard) :=
  ⟨p.allocator, p.backends.map (·.map Backend.recording), p.jobTime⟩

theorem backend?_recording (p : Platform σ) (name : String) :
    p.recording.backend? name = (p.backend? name).map Backend.recording := by
  have hname : (fun b : Backend (σ × List Heard) => b.name == name) ∘ Backend.recording =
      fun b => b.name == name := rfl
  rw [backend?, backend?, recording]
  cases p.backends with
  | none => rfl
  | some backends => simp only [Option.map_some, Option.bind_some, List.find?_map, hname]

/-- **Backends that keep a list have heard what is on it**, and nothing else. -/
theorem Hears.recorded {t t' : σ × List Heard} (h : p.recording.Hears name t calls t') :
    t'.2 = t.2 ++ calls ∧ p.Hears name t.1 calls t'.1 := by
  rw [Hears, backend?_recording] at h
  rw [Hears]
  cases hb : p.backend? name with
  | none =>
      rw [hb] at h
      obtain ⟨rfl, rfl⟩ := h
      exact ⟨(List.append_nil _).symm, rfl, rfl⟩
  | some b =>
      rw [hb] at h
      exact Backend.HearsAll.recorded h

end Platform

end Offload
