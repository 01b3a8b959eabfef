/-
**What a session asks of a card.**

A session opens a card and attaches an action to it, or it leaves nothing behind; once it is
acquired it holds both, and releasing it lets go of both.  Here the calls of each operation are
written down as the backend hears them, in the order in which they are made: what is attached to,
detached and released is the card that was opened and the action that was attached.

Main definitions:

* `Session.opening`, `Session.closing` — the calls that begin and that end a session;
* `Session.Refused` — the calls of an attempt that failed;
* `Session.Held` — card and action of a session are both held; `Session.numbered` — the session with
  a card and an action of certain numbers.

Main results:

* `Session.called_of_acquire`, `Session.called_of_acquire_error` — **a session is acquired as a
  whole or not at all**;
* `Session.called_release` — a session that is held is let go of in the opposite order.
-/

import Offload.Session
import Offload.Proofs.Machine.Frame

set_option relaxedAutoImplicit false
set_option autoImplicit false

namespace Offload

namespace Session

open Machine (Called)

variable {σ : Type} {p : Platform σ} {m m' : Machine σ} {s : Session σ} {backend : String}
  {card : UInt32} {irq : Bool} {b : Backend σ} {opened attached : Nat}

/-- The calls that begin a session with a card and an action of certain numbers.  The interrupt is
routed exactly when it is wanted, and whether that succeeded makes no difference to any other
call. -/
def opening (card : UInt32) (irq : Bool) (opened attached : Nat) (armed : Bool) : List Heard :=
  [.openCard (Device.ofCard card) (some opened),
    .attach opened (Device.ofCard card) (attachment irq) (some attached)] ++
  if irq then [.assignInterrupt attached interruptSource armed] else []

/-- The calls that end a session. -/
def closing (card : UInt32) (opened attached : Nat) : List Heard :=
  [.detach attached, .release opened (Device.ofCard card)]

/-- The calls of an attempt that failed. -/
inductive Refused (card : UInt32) (irq : Bool) : List Heard → Prop
  /-- There is no backend of the name. -/
  | untried : Refused card irq []
  | notOpened : Refused card irq [.openCard (Device.ofCard card) none]
  | notAttached (opened : Nat) :
      Refused card irq
        [.openCard (Device.ofCard card) (some opened),
          .attach opened (Device.ofCard card) (attachment irq) none,
          .release opened (Device.ofCard card)]

/-- Both the card and the action are held, and both are of the backend of a name. -/
def Held (backend : String) (s : Session σ) : Prop :=
  ∃ (action : Action σ) (card : Card σ), s = ⟨some action, some card⟩ ∧
    action.backend = card.backend ∧ card.backend.name = backend

/-- A session with a card and an action of certain numbers. -/
def numbered (b : Backend σ) (card : UInt32) (opened attached : Nat) : Session σ :=
  ⟨some ⟨b, attached⟩, some ⟨b, Device.ofCard card, opened⟩⟩

theorem called_arm (hb : p.backend? backend = some b) (attached : Nat) (irq : Bool)
    (m : Machine σ) :
    ∃ armed, Called p backend
      (if irq then [.assignInterrupt attached interruptSource armed] else [])
      m (arm ⟨b, attached⟩ irq m) := by
  cases irq with
  | false => exact ⟨true, (Machine.Noted.refl m).called⟩
  | true =>
      have hcall := Machine.called_assignInterrupt ⟨b, attached⟩ hb interruptSource m
      rw [arm, if_pos rfl]
      rcases hassign : m.assignInterrupt ⟨b, attached⟩ interruptSource with ⟨e | _, m₁⟩
      · rw [hassign] at hcall
        exact ⟨false, hcall.note _ _ _⟩
      · rw [hassign] at hcall
        exact ⟨true, hcall⟩

/-- **A session that was acquired has the card that was opened for it**, and the action that was
attached to this card. -/
theorem called_of_acquire (h : acquire p backend card irq m = (.ok s, m')) :
    ∃ b opened attached armed, p.backend? backend = some b ∧
      s = numbered b card opened attached ∧
      Called p backend (opening card irq opened attached armed) m m' := by
  rw [acquire] at h
  rcases hopen : m.openCard p backend (Device.ofCard card) with ⟨e | c, m₁⟩
  · simp only [hopen] at h
    cases h
  · simp only [hopen] at h
    obtain ⟨hb, hdevice, hopened⟩ := Machine.called_of_openCard hopen
    rcases hattach : m₁.attach c (attachment irq) with ⟨e | action, m₂⟩
    · simp only [hattach] at h
      cases h
    · simp only [hattach] at h
      cases h
      obtain ⟨hbackend, hattached⟩ := Machine.called_of_attach hb hattach
      obtain ⟨b, device, opened⟩ := c
      obtain ⟨b', attached⟩ := action
      simp only at hdevice hbackend hattached
      subst hdevice hbackend
      obtain ⟨armed, harmed⟩ := called_arm hb attached irq m₂
      exact ⟨b', opened, attached, armed, hb, rfl,
        ((hopened.trans hattached).trans harmed).note _ _ _⟩

/-- A session that was acquired is held. -/
theorem held_of_acquire (h : acquire p backend card irq m = (.ok s, m')) : s.Held backend := by
  obtain ⟨b, opened, attached, armed, hb, rfl, -⟩ := called_of_acquire h
  exact ⟨_, _, rfl, rfl, Platform.name_of_backend? hb⟩

/-- **A session that was not acquired leaves no card open.** -/
theorem called_of_acquire_error {e : Error}
    (h : acquire p backend card irq m = (.error e, m')) :
    ∃ calls, Refused card irq calls ∧ Called p backend calls m m' := by
  rw [acquire] at h
  rcases hopen : m.openCard p backend (Device.ofCard card) with ⟨e₁ | c, m₁⟩
  · simp only [hopen] at h
    cases h
    rcases Machine.called_of_openCard_error hopen with hcalled | hcalled
    · exact ⟨[], Refused.untried, hcalled⟩
    · exact ⟨_, Refused.notOpened, hcalled⟩
  · simp only [hopen] at h
    obtain ⟨hb, hdevice, hopened⟩ := Machine.called_of_openCard hopen
    rcases hattach : m₁.attach c (attachment irq) with ⟨e₂ | action, m₂⟩
    · simp only [hattach] at h
      cases h
      have hattached := Machine.called_of_attach_error hb hattach
      have hreleased := Machine.called_release c hb m₂
      rw [hdevice] at hattached hreleased
      exact ⟨_, Refused.notAttached c.number, (hopened.trans hattached).trans hreleased⟩
    · simp only [hattach] at h
      cases h

/-- A session that is held is let go of: first the action, then the card. -/
theorem called_release (hb : p.backend? backend = some b) (card : UInt32) (opened attached : Nat)
    (m : Machine σ) :
    Called p backend (closing card opened attached) m
      ((numbered b card opened attached).release m).2 := by
  have hdetached := Machine.called_detach ⟨b, attached⟩ hb
    (m.note .debug .client "detaching action")
  have hreleased := Machine.called_release ⟨b, Device.ofCard card, opened⟩ hb
    (((m.note .debug .client "detaching action").detach ⟨b, attached⟩).note .debug .client
      ("releasing card " ++ Text.quoted (Device.ofCard card)))
  exact (Machine.noted_note _ _ _ m).called.trans ((hdetached.note _ _ _).trans hreleased)

end Session

end Offload
