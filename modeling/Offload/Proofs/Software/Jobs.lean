/-
**A session on the software backend, and its job.**

Where the software backend is registered, a session is always acquired: its card is a new one, whose
memory nobody has written to.  A job always completes; the return code tells whether everything that
was to be read and written could be.

Main definitions:

* `Software.cardOf` — the card of an action;
* `Software.Registered` — the backend can be found;
* `Software.Fresh` — a session whose card nobody has written to;
* `Software.Attached` — an action that is attached to a card that was opened.

Main results:

* `Software.acquire_spec` — **a session is acquired**: what it holds and what becomes of the cards;
* `Software.acquire_fresh`, `Software.attached_acquire` — its card is fresh, its action attached;
* `Software.perform_spec` — what becomes of any job;
* `Software.perform_cases` — **a job with the right flags succeeds exactly when it can read and
  write all it has to**.
-/

import Offload.Proofs.Client.Phases

set_option relaxedAutoImplicit false
set_option autoImplicit false

namespace Offload

namespace Software

variable {p : Platform Cards} {m m' : Machine Cards} {job : Job} {host : HostMemory}
  {card : CardMemory}

/-- The card of an action. -/
def cardOf (c : Cards) (action : Nat) : Nat := ((c.actions[action]?).getD ⟨0, ⟨0⟩, none⟩).card

/-! ### Sessions -/

/-- The software backend is the first one of its name that is registered. -/
def Registered (p : Platform Cards) : Prop :=
  ∃ backends, p.backends = some backends ∧
    (backends.find? fun b => b.name == Device.software) = some backend

/-- A session on the backend, with an action whose card nobody has written to. -/
def Fresh (s : Session Cards) (c : Cards) : Prop :=
  ∃ action, s.action = some ⟨backend, action⟩ ∧ c.memory (cardOf c action) = .fresh

/-- An action that is attached to a card that was opened. -/
def Attached (c : Cards) (action : Nat) : Prop :=
  ∃ a, c.actions[action]? = some a ∧ a.card < c.memories.length

theorem cardOf_eq {c : Cards} {action : Nat} {a : AttachedAction}
    (h : c.actions[action]? = some a) : cardOf c action = a.card := by
  rw [cardOf, h]
  rfl

theorem Attached.cardOf_lt {c : Cards} {action : Nat} (h : Attached c action) :
    cardOf c action < c.memories.length := by
  obtain ⟨a, ha, hlt⟩ := h
  rwa [cardOf_eq ha]

/-- Routing an interrupt moves no action to another card. -/
theorem exists_assignInterrupt {c : Cards} {action : Nat} {a : AttachedAction}
    (h : c.actions[action]? = some a) (routed : Nat) (source : UInt32) :
    ∃ a', (assignInterrupt routed source c).state.actions[action]? = some a' ∧
      a'.card = a.card := by
  simp only [assignInterrupt, List.getElem?_modify, h, Option.map_eq_map, Option.map_some]
  refine ⟨_, rfl, ?_⟩
  split <;> rfl

theorem exists_arm {action : Nat} {a : AttachedAction} (h : m.devices.actions[action]? = some a)
    (irq : Bool) :
    let armed := Session.arm ⟨backend, action⟩ irq m
    armed.memory = m.memory ∧ armed.files = m.files ∧
      armed.devices.memories = m.devices.memories ∧
      ∃ a', armed.devices.actions[action]? = some a' ∧ a'.card = a.card := by
  cases irq with
  | false => exact ⟨rfl, rfl, rfl, a, h, rfl⟩
  | true => exact ⟨rfl, rfl, rfl, exists_assignInterrupt h action Session.interruptSource⟩

/-- **Where the backend is registered, a session is acquired**: a card is opened, to which nobody
has written, and an action is attached to it. -/
theorem acquire_spec (hp : Registered p) (card : UInt32) (irq : Bool) (m : Machine Cards) :
    ∃ s m' a, Session.acquire p Device.software card irq m = (.ok s, m') ∧
      m'.memory = m.memory ∧ m'.files = m.files ∧
      s.action = some ⟨backend, m.devices.actions.length⟩ ∧
      m'.devices.memories = m.devices.memories ++ [.fresh] ∧
      m'.devices.actions[m.devices.actions.length]? = some a ∧
      a.card = m.devices.memories.length := by
  obtain ⟨backends, hbackends, hfind⟩ := hp
  let device := Device.ofCard card
  let opened := m.devices.memories.length
  obtain ⟨m₁, hopen, hmem₁, hfiles₁, hdev₁⟩ : ∃ m₁,
      m.openCard p Device.software device = (.ok ⟨backend, device, opened⟩, m₁) ∧
        m₁.memory = m.memory ∧ m₁.files = m.files ∧
        m₁.devices = (openCard device m.devices).state :=
    ⟨_, Machine.openCard_eq_ok hbackends hfind rfl, rfl, rfl, rfl⟩
  obtain ⟨m₂, hattach, hmem₂, hfiles₂, hdev₂⟩ : ∃ m₂,
      m₁.attach ⟨backend, device, opened⟩ (Session.attachment irq) =
          (.ok ⟨backend, m₁.devices.actions.length⟩, m₂) ∧
        m₂.memory = m₁.memory ∧ m₂.files = m₁.files ∧
        m₂.devices = (attach opened device (Session.attachment irq) m₁.devices).state :=
    ⟨_, rfl, rfl, rfl, rfl⟩
  have hmemories : m₂.devices.memories = m.devices.memories ++ [.fresh] := by
    rw [hdev₂, attach, if_pos (by rfl), hdev₁]
    rfl
  have haction : m₂.devices.actions[m₁.devices.actions.length]? =
      some ⟨opened, (Session.attachment irq).flags, none⟩ := by
    rw [hdev₂, attach, if_pos (by rfl)]
    exact List.getElem?_concat_length
  obtain ⟨hmem₃, hfiles₃, hdev₃, a, ha, hcard⟩ := exists_arm haction irq
  have hactions : m₁.devices.actions = m.devices.actions := by
    rw [hdev₁]
    rfl
  rw [Session.acquire, hopen]
  simp only [hattach]
  exact ⟨_, _, a, rfl, hmem₃.trans (hmem₂.trans hmem₁), hfiles₃.trans (hfiles₂.trans hfiles₁),
    hactions ▸ rfl, hdev₃.trans hmemories, hactions ▸ ha, hcard⟩

/-- A session that is acquired has a fresh card. -/
theorem acquire_fresh (hp : Registered p) (card : UInt32) (irq : Bool) (m : Machine Cards) :
    ∃ s m', Session.acquire p Device.software card irq m = (.ok s, m') ∧
      m'.memory = m.memory ∧ m'.files = m.files ∧ Fresh s m'.devices := by
  obtain ⟨s, m', a, hacquire, hmem, hfiles, haction, hmemories, ha, hcard⟩ :=
    acquire_spec hp card irq m
  refine ⟨s, m', hacquire, hmem, hfiles, _, haction, ?_⟩
  rw [Cards.memory, cardOf_eq ha, hcard, hmemories, List.getElem?_concat_length]
  rfl

/-- The action of a session that is acquired is attached to a card that was opened. -/
theorem attached_acquire (hp : Registered p) {card : UInt32} {irq : Bool} {s : Session Cards}
    (h : Session.acquire p Device.software card irq m = (.ok s, m')) :
    ∃ number, s.action = some ⟨backend, number⟩ ∧ Attached m'.devices number := by
  obtain ⟨s', m'', a, hacquire, -, -, haction, hmemories, ha, hcard⟩ := acquire_spec hp card irq m
  obtain ⟨rfl, rfl⟩ : s' = s ∧ m'' = m' := by simpa using hacquire.symm.trans h
  refine ⟨_, haction, a, ha, ?_⟩
  rw [hmemories, hcard]
  simp

/-! ### Jobs -/

/-- What becomes of a job, whatever its flags are: it is done, or it leaves everything as it is. -/
theorem perform_spec (job : Job) (host : HostMemory) (card : CardMemory) :
    let run := perform job host card
    (job.input.flags.isSource = true ∧ job.output.flags.isDestination = true ∧
        ∃ d, readRegion job.input (jobLength job) host card = some d ∧
          writeRegion job.output d.upper host card = some (run.writes, run.card) ∧
          run.retc = Job.success) ∨
      ((job.input.flags.isSource = true → job.output.flags.isDestination = true →
          ∀ d, readRegion job.input (jobLength job) host card = some d →
            writeRegion job.output d.upper host card = none) ∧
        run.retc = Job.failure ∧ run.writes = [] ∧ run.card = card) := by
  intro run
  simp only [run, perform]
  split
  · next hflags =>
      obtain ⟨hsource, htarget⟩ := Bool.and_eq_true_iff.1 hflags
      split
      · next hread =>
          refine Or.inr ⟨?_, rfl, rfl, rfl⟩
          intro _ _ d hd
          cases hread.symm.trans hd
      · next d hread =>
          split
          · next hwrite =>
              refine Or.inr ⟨?_, rfl, rfl, rfl⟩
              intro _ _ d' hd'
              cases hread.symm.trans hd'
              exact hwrite
          · next writes card' hwrite =>
              exact Or.inl ⟨hsource, htarget, d, hread, hwrite, rfl⟩
  · next hflags =>
      refine Or.inr ⟨?_, rfl, rfl, rfl⟩
      intro hsource htarget
      exact absurd (Bool.and_eq_true_iff.2 ⟨hsource, htarget⟩) hflags

/-- **A job with the right flags succeeds exactly when it can read and write all it has to.** -/
theorem perform_cases (job : Job) (host : HostMemory) (card : CardMemory)
    (hsource : job.input.flags = .ofSource) (htarget : job.output.flags = .ofDestination) :
    (∃ d writes card', readRegion job.input (jobLength job) host card = some d ∧
        writeRegion job.output d.upper host card = some (writes, card') ∧
        (perform job host card).retc = Job.success ∧ (perform job host card).writes = writes) ∨
      ((∀ d, readRegion job.input (jobLength job) host card = some d →
          writeRegion job.output d.upper host card = none) ∧
        (perform job host card).retc = Job.failure ∧ (perform job host card).writes = []) := by
  rcases perform_spec job host card with
    ⟨-, -, d, hread, hwrite, hretc⟩ | ⟨hno, hretc, hwrites, -⟩
  · exact Or.inl ⟨d, _, _, hread, hwrite, hretc, rfl⟩
  · exact Or.inr ⟨hno (hsource ▸ rfl) (htarget ▸ rfl), hretc, hwrites⟩

end Software

end Offload
