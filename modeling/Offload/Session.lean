/-
**Sessions.**

A session holds one open card and one action attached to it.  It is acquired as a whole or not at
all, and released in the opposite order: first the action, then the card.

Main definitions:

* `Session` — what is held;
* `Session.acquire` — opening the card and attaching the action;
* `Session.release` — letting go of both.

Main results:

* `Session.release_release` — a session that was released holds nothing.
-/

import Offload.Backend.Software
import Offload.Machine

set_option relaxedAutoImplicit false
set_option autoImplicit false

namespace Offload

variable {σ : Type}

/-- A card and an action attached to it, as far as they are still held. -/
structure Session (σ : Type) where
  action : Option (Action σ)
  card : Option (Card σ)

namespace Session

/-- The source of the interrupt that signals completion. -/
def interruptSource : UInt32 := 0x104

/-- The seconds that attaching may wait for the card. -/
def attachTimeout : Nat := 60

/-- What the action of a session is attached with. -/
def attachment (irq : Bool) : Attachment :=
  ⟨changecaseType, .ofInterrupt irq, attachTimeout⟩

/-- Arms the completion interrupt, if it is wanted.  Without it the action is polled, so a failure
is only worth a warning. -/
def arm (action : Action σ) (irq : Bool) (m : Machine σ) : Machine σ :=
  if irq then
    match m.assignInterrupt action interruptSource with
    | (.ok (), m) => m
    | (.error e, m) =>
      m.note .warn .client
        ("could not arm the completion interrupt, falling back to polling: " ++ e.message)
  else m

/-- Opens the card of a number and attaches the action that changes case.  If the action cannot be
attached the card is released again. -/
def acquire (p : Platform σ) (backend : String) (card : UInt32) (irq : Bool) (m : Machine σ) :
    Except Error (Session σ) × Machine σ :=
  let device := Device.ofCard card
  match m.openCard p backend device with
  | (.error e, m) => (.error e, m)
  | (.ok card, m) =>
    match m.attach card (attachment irq) with
    -- The card is open by now, so it has to be released.
    | (.error e, m) => (.error e, m.release card)
    | (.ok action, m) =>
      let m := (arm action irq m).note .info .client ("attached action 0x" ++
        Text.paddedHex 8 changecaseType.toNat ++ " on " ++ Text.quoted device)
      (.ok ⟨some action, some card⟩, m)

/-- The machine after the action, if it is held, is detached. -/
def releaseAction (s : Session σ) (m : Machine σ) : Machine σ :=
  match s.action with
  | some action => (m.note .debug .client "detaching action").detach action
  | none => m

/-- The machine after the card, if it is held, is released. -/
def releaseCard (s : Session σ) (m : Machine σ) : Machine σ :=
  match s.card with
  | some card =>
    (m.note .debug .client ("releasing card " ++ Text.quoted card.device)).release card
  | none => m

/-- Lets go of the action and then of the card. -/
def release (s : Session σ) (m : Machine σ) : Session σ × Machine σ :=
  (⟨none, none⟩, s.releaseCard (s.releaseAction m))

/-- Releasing again does nothing. -/
theorem release_release (s : Session σ) (m : Machine σ) :
    (s.release m).1.release (s.release m).2 = s.release m := rfl

end Session

end Offload
