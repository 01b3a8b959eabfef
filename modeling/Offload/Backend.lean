/-
**Backends.**

A backend opens cards, attaches actions to them and runs jobs on the actions.  It is described by
what it answers to each request; its own state (the memory of its cards, say) is a type of its
choice.  A backend touches the host memory only through the writes it asks for while it runs a job,
and those are made only where a live buffer is.

Main definitions:

* `Backend` — what a backend answers;
* `Reply`, `Execution` — the form of the answers;
* `Backend.within` — a backend whose state is a part of a larger one.
-/

import Offload.Error
import Offload.Job
import Offload.Log
import Offload.Memory.Host

set_option relaxedAutoImplicit false
set_option autoImplicit false

namespace Offload

variable {σ τ α : Type}

/-- The answer to a request: a value or an error, the state afterwards, and what is logged. -/
structure Reply (σ α : Type) where
  result : Except Error α
  state : σ
  log : List Log.Record

/-- How an action ran a job: whether the transport failed, the return code, the writes to host
memory in order, the state afterwards, and what is logged. -/
structure Execution (σ : Type) where
  result : Except Error Unit
  retc : UInt32
  writes : List (UInt64 × Bytes)
  state : σ
  log : List Log.Record

/-- What an action is attached with. -/
structure Attachment where
  type : UInt32
  flags : ActionFlags
  timeout : Nat
  deriving DecidableEq, Repr

/-- A backend with states in `σ`.  Cards and actions are known by numbers that the backend gives
out when it opens or attaches them; times are in seconds. -/
structure Backend (σ : Type) where
  /-- The name under which the backend is registered. -/
  name : String
  /-- Opens a device. -/
  openCard : String → σ → Reply σ Nat
  /-- Attaches an action to a card of the given number and device. -/
  attach : Nat → String → Attachment → σ → Reply σ Nat
  /-- Routes the completion interrupt of an action from a source. -/
  assignInterrupt : Nat → UInt32 → σ → Reply σ Unit
  /-- Runs a job on an action, within a time. -/
  execute : Nat → Job → Nat → HostMemory → σ → Execution σ
  /-- Takes leave of an action. -/
  detach : Nat → σ → σ × List Log.Record
  /-- Takes leave of a card of the given number and device. -/
  release : Nat → String → σ → σ × List Log.Record

/-- The answer of a backend whose state is a part of a larger one. -/
def Reply.within (set : σ → τ → τ) (t : τ) (r : Reply σ α) : Reply τ α :=
  ⟨r.result, set r.state t, r.log⟩

/-- A backend whose state is a part of a larger one, which `get` and `set` single out. -/
def Backend.within (get : τ → σ) (set : σ → τ → τ) (b : Backend σ) : Backend τ where
  name := b.name
  openCard device t := (b.openCard device (get t)).within set t
  attach card device a t := (b.attach card device a (get t)).within set t
  assignInterrupt action source t := (b.assignInterrupt action source (get t)).within set t
  execute action job timeout host t :=
    let e := b.execute action job timeout host (get t)
    ⟨e.result, e.retc, e.writes, set e.state t, e.log⟩
  detach action t := let (s, log) := b.detach action (get t); (set s t, log)
  release card device t := let (s, log) := b.release card device (get t); (set s t, log)

end Offload
