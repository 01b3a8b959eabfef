/-
**Requests to a machine with one backend.**

Whoever works on a machine opens cards, attaches actions, runs jobs, takes buffers and looks into
them, in any order.  A request names a card or an action by its number, so it may also name one that
was let go of, or one that never was.

Main definitions:

* `Machine.Request`, `Machine.Reaction` — what can be asked of a machine, and what it answers;
* `Machine.react` — one request;
* `Machine.reactAll` — any number of them, with all the answers.
-/

import Offload.Machine

set_option relaxedAutoImplicit false
set_option autoImplicit false

namespace Offload

namespace Machine

variable {σ : Type}

/-- What can be asked of a machine. -/
inductive Request where
  | openCard (device : String)
  | attach (card : Nat) (device : String) (a : Attachment)
  | assignInterrupt (action : Nat) (source : UInt32)
  | execute (action : Nat) (job : Job) (timeout : Nat)
  | detach (action : Nat)
  | release (card : Nat) (device : String)
  | allocate (size : Nat)
  | free (buffer : HostBuffer)
  | fill (buffer : HostBuffer) (d : Bytes)
  /-- Looks into a buffer. -/
  | contents (buffer : HostBuffer)

/-- What a machine answers. -/
inductive Reaction where
  /-- The number of a card or of an action. -/
  | number (r : Except Error Nat)
  | done (r : Except Error Unit)
  /-- The job comes back with its return code. -/
  | ran (r : Except Error Unit) (job : Job)
  | buffer (r : Except Error HostBuffer)
  | bytes (l : List UInt8)

/-- A machine with one backend reacts to a request. -/
def react (A : Allocator) (b : Backend σ) (m : Machine σ) : Request → Reaction × Machine σ
  | .openCard device =>
    let (r, m) := m.openCard ⟨A, some [b], 0⟩ b.name device
    (.number (r.map Card.number), m)
  | .attach card device a =>
    let (r, m) := m.attach ⟨b, device, card⟩ a
    (.number (r.map Action.number), m)
  | .assignInterrupt action source =>
    let (r, m) := m.assignInterrupt ⟨b, action⟩ source
    (.done r, m)
  | .execute action job timeout =>
    let (r, job, m) := m.execute ⟨b, action⟩ job timeout
    (.ran r job, m)
  | .detach action => (.done (.ok ()), m.detach ⟨b, action⟩)
  | .release card device => (.done (.ok ()), m.release ⟨b, device, card⟩)
  | .allocate size =>
    let (r, m) := m.allocate ⟨A, some [b], 0⟩ size
    (.buffer r, m)
  | .free buffer => (.done (.ok ()), m.free buffer)
  | .fill buffer d => (.done (.ok ()), m.fill buffer d)
  | .contents buffer => (.bytes (m.contents buffer).toList, m)

/-- The reactions to requests, one after another, and the machine in the end. -/
def reactAll (A : Allocator) (b : Backend σ) : List Request → Machine σ → List Reaction × Machine σ
  | [], m => ([], m)
  | r :: rs, m =>
    let first := m.react A b r
    let rest := reactAll A b rs first.2
    (first.1 :: rest.1, rest.2)

end Machine

end Offload
