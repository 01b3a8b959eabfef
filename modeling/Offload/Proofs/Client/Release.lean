/-
**Everything that is taken is given back, once.**

A client calls the backend of its card and takes buffers, and both can be told afterwards: the
record of the machine has the calls on cards and the buffers that were taken and freed, and the
state of the backend is the one to which the calls lead that have reached it.  While a client is
under way, this is what its stage says: its buffers were taken, and from the stage with a session
on, a card was opened and an action attached to it, which are those of the session.  Whichever way
it ends, the session is released first, the action before the card, and the buffers are freed after
that, each of them once.

Main definitions:

* `Client.CardWord` — the calls that a backend hears of a client that has let go of everything;
* `Client.Told` — the calls that the backend has heard are on record, after the buffers that were
  taken;
* `Client.Settled` — everything that was taken was given back;
* `Client.Ledger` — what is on record of a client and what its backend has heard, by its stage.

Main results:

* `Client.preserved_ledger` — **every move keeps the record in order**;
* `Client.releases_everything_once` — **after any calls in any order, and whatever the cards
  answer, a client that is dropped has released every resource exactly once and in order**;
* `Client.recorded_in_order` — so a backend that keeps a list of what it hears has a word on it.
-/

import Offload.Program
import Offload.Proofs.Client.Phases

set_option relaxedAutoImplicit false
set_option autoImplicit false

namespace Offload

namespace Client

open Machine (Holding Called)

variable {σ : Type} {p : Platform σ} {o : Options} {c c' : Client σ} {start m m' : Machine σ}
  {step : Step} {a : Answer} {e : Error} {calls : List Heard} {taken others : List HostBuffer}
  {b : Backend σ} {opened attached : Nat}

/-! ### Records -/

/-- The calls that a backend hears of a client that has let go of everything: those of an attempt
that failed, or those of one session with at most one job.  What is detached and released is what
was attached and opened. -/
inductive CardWord (o : Options) : List Heard → Prop
  | refused {calls : List Heard} (hcalls : Session.Refused o.card o.irq calls) : CardWord o calls
  | idle (opened attached : Nat) (armed : Bool) :
      CardWord o (Session.opening o.card o.irq opened attached armed ++
        Session.closing o.card opened attached)
  | executed (opened attached : Nat) (armed : Bool) (job : Job) (host : HostMemory)
      (succeeded : Bool) :
      CardWord o (Session.opening o.card o.irq opened attached armed ++
        [.execute attached job o.timeout host succeeded] ++
        Session.closing o.card opened attached)

/-- Since the start buffers were taken and calls were made on a card: both are on record, and the
backend has heard just these calls. -/
structure Told (p : Platform σ) (o : Options) (start : Machine σ) (taken : List HostBuffer)
    (calls : List Heard) (m : Machine σ) : Prop where
  events : m.events =
    start.events ++ taken.map .allocated ++ calls.map (Heard.event o.backend)
  devices : p.Hears o.backend start.devices calls m.devices

/-- Since the start at most two buffers were taken, the calls that the backend heard make up a word,
and after these calls the same buffers were freed, the last one first. -/
def Settled (p : Platform σ) (o : Options) (start m : Machine σ) : Prop :=
  ∃ (taken : List HostBuffer) (calls : List Heard), taken.length ≤ 2 ∧ taken.Nodup ∧
    CardWord o calls ∧
    m.events = start.events ++ taken.map .allocated ++ calls.map (Heard.event o.backend) ++
      taken.reverse.map .freed ∧
    p.Hears o.backend start.devices calls m.devices

/-- The client has a session, with a card and an action of certain numbers. -/
structure InSession (p : Platform σ) (o : Options) (c : Client σ) (b : Backend σ)
    (opened attached : Nat) : Prop where
  backend : p.backend? o.backend = some b
  session : c.session = some (.numbered b o.card opened attached)

/-- The client has submitted a job in its session. -/
def Submitted (p : Platform σ) (o : Options) (start : Machine σ) (c : Client σ) (m : Machine σ) :
    Prop :=
  ∃ b opened attached armed job host succeeded, InSession p o c b opened attached ∧
    Told p o start c.buffers (Session.opening o.card o.irq opened attached armed ++
      [.execute attached job o.timeout host succeeded]) m

/-- What is on record of a client and what its backend has heard, by its stage. -/
def Ledger (p : Platform σ) (o : Options) (start : Machine σ) (c : Client σ) (m : Machine σ) :
    Prop :=
  match c.stage with
  | .unconfigured | .inputStaged | .staged => Told p o start c.buffers [] m
  | .sessionOpen =>
    ∃ b opened attached armed, InSession p o c b opened attached ∧
      Told p o start c.buffers (Session.opening o.card o.irq opened attached armed) m
  | .executed | .verified | .skipped => Submitted p o start c m
  | .tornDown | .failed => Settled p o start m

theorem ledger_fresh (p : Platform σ) (o : Options) (m : Machine σ) :
    Ledger p o m (fresh o) m where
  events := by simp [buffers, fresh]
  devices := p.hears_nil o.backend m.devices

theorem Told.of_eq (h : Told p o start taken calls m) (hevents : m'.events = m.events)
    (hdevices : m'.devices = m.devices) : Told p o start taken calls m' :=
  ⟨hevents.trans h.events, hdevices ▸ h.devices⟩

/-- After further calls these are told as well. -/
theorem Told.called {new : List Heard} (h : Told p o start taken calls m)
    (hcalled : Called p o.backend new m m') : Told p o start taken (calls ++ new) m' where
  events := by rw [hcalled.events, h.events, List.map_append, ← List.append_assoc]
  devices := h.devices.append hcalled.devices

/-- A job that is submitted reaches the backend once, for the action of the session. -/
theorem Told.submitted {job done : Job} {timeout : Nat} {r : Except Error Unit}
    (h : Told p o start taken calls m) (hin : InSession p o c b opened attached)
    (hsubmit : submit c.session job timeout m = (r, done, m')) :
    Told p o start taken
      (calls ++ [.execute attached job timeout m.memory (Machine.succeeded r)]) m' := by
  rw [hin.session] at hsubmit
  have hrun : m.execute ⟨b, attached⟩ job timeout = (r, done, m') := hsubmit
  have hevents := Machine.events_execute ⟨b, attached⟩ job timeout m
  have hheard := Machine.hears_execute ⟨b, attached⟩ hin.backend job timeout m
  rw [hrun] at hevents hheard
  refine ⟨?_, h.devices.append hheard⟩
  rw [hevents, h.events, Platform.name_of_backend? hin.backend, List.map_append,
    ← List.append_assoc]
  rfl

/-! ### Teardowns -/

theorem length_buffers_le (c : Client σ) : c.buffers.length ≤ 2 := by
  rw [buffers]
  cases c.input <;> cases c.output <;> simp

theorem events_freeBuffer (what : String) (buffer : Option HostBuffer) (m : Machine σ) :
    (freeBuffer what buffer m).events = m.events ++ buffer.toList.map .freed := by
  cases buffer <;> simp [freeBuffer]

theorem devices_freeBuffer (what : String) (buffer : Option HostBuffer) (m : Machine σ) :
    (freeBuffer what buffer m).devices = m.devices := by
  cases buffer <;> rfl

theorem events_teardown (c : Client σ) (m : Machine σ) :
    (c.teardown m).2.events =
      (releaseSession c.session m).events ++ c.buffers.reverse.map .freed := by
  rw [teardown, events_freeBuffer, events_freeBuffer, buffers, List.append_assoc]
  cases c.input <;> cases c.output <;> rfl

theorem devices_teardown (c : Client σ) (m : Machine σ) :
    (c.teardown m).2.devices = (releaseSession c.session m).devices := by
  rw [teardown, devices_freeBuffer, devices_freeBuffer]

/-- A teardown without a session settles a record with an attempt at a session that failed. -/
theorem Told.settled_of_refused (h : Told p o start c.buffers calls m) (hsession : c.session = none)
    (hnodup : c.buffers.Nodup) (hcalls : Session.Refused o.card o.irq calls) :
    Settled p o start (c.teardown m).2 := by
  refine ⟨c.buffers, calls, length_buffers_le c, hnodup, CardWord.refused hcalls, ?_, ?_⟩
  · rw [events_teardown, hsession, ← h.events]
    rfl
  · rw [devices_teardown, hsession]
    exact h.devices

/-- A teardown with a session settles a record that lacks nothing but the end of the session. -/
theorem Told.settled_of_session (h : Told p o start c.buffers calls m)
    (hin : InSession p o c b opened attached) (hnodup : c.buffers.Nodup)
    (hword : CardWord o (calls ++ Session.closing o.card opened attached)) :
    Settled p o start (c.teardown m).2 := by
  have hreleased := h.called (Session.called_release hin.backend o.card opened attached m)
  refine ⟨c.buffers, _, length_buffers_le c, hnodup, hword, ?_, ?_⟩
  · rw [events_teardown, hin.session, ← hreleased.events]
    rfl
  · rw [devices_teardown, hin.session]
    exact hreleased.devices

theorem Submitted.settled (h : Submitted p o start c m) (hnodup : c.buffers.Nodup) :
    Settled p o start (c.teardown m).2 := by
  obtain ⟨b, opened, attached, armed, job, host, succeeded, hin, htold⟩ := h
  exact htold.settled_of_session hin hnodup
    (CardWord.executed opened attached armed job host succeeded)

/-- A client that has let go of everything puts nothing more on record. -/
theorem settled_of_closed (hclosed : c.stage = .tornDown ∨ c.stage = .failed) (h : Phase o c)
    (hledger : Settled p o start m) : Settled p o start (c.teardown m).2 := by
  obtain ⟨-, hsession, hinput, houtput⟩ := h.of_closed hclosed
  obtain ⟨taken, calls, hlength, hnodup, hword, hevents, hdevices⟩ := hledger
  refine ⟨taken, calls, hlength, hnodup, hword, ?_, ?_⟩
  · rw [events_teardown, buffers, hsession, hinput, houtput]
    simpa [releaseSession] using hevents
  · rw [devices_teardown, hsession]
    exact hdevices

/-- **A teardown settles the record of a client at any stage.** -/
theorem Ledger.teardown (hledger : Ledger p o start c m) (h : Phase o c)
    (hnodup : c.buffers.Nodup) : Settled p o start (c.teardown m).2 := by
  have hnone : Session.Refused o.card o.irq [] := Session.Refused.untried
  rw [Ledger] at hledger
  split at hledger
  · next hstage =>
      obtain rfl := h.unconfigured hstage
      exact hledger.settled_of_refused rfl hnodup hnone
  · next hstage =>
      obtain ⟨input, params, -, rfl⟩ := h.inputStaged hstage
      exact hledger.settled_of_refused rfl hnodup hnone
  · next hstage =>
      obtain ⟨input, output, params, -, rfl⟩ := h.staged hstage
      exact hledger.settled_of_refused rfl hnodup hnone
  · next hstage =>
      obtain ⟨b, opened, attached, armed, hin, htold⟩ := hledger
      exact htold.settled_of_session hin hnodup (CardWord.idle opened attached armed)
  · exact hledger.settled hnodup
  · exact hledger.settled hnodup
  · exact hledger.settled hnodup
  · next hstage => exact settled_of_closed (Or.inl hstage) h hledger
  · next hstage => exact settled_of_closed (Or.inr hstage) h hledger

theorem ledger_of_settled (h : Settled p o start (c.teardown m).2) :
    Ledger p o start (c.teardown m).1 (c.teardown m).2 := by
  by_cases hfailed : c.stage = .failed
  · rw [Ledger, teardown, if_pos hfailed]
    exact h
  · rw [Ledger, teardown, if_neg hfailed]
    exact h

/-! ### Moves -/

theorem Submitted.of_eq (h : Submitted p o start c m) (hevents : m'.events = m.events)
    (hdevices : m'.devices = m.devices) : Submitted p o start c m' := by
  obtain ⟨b, opened, attached, armed, job, host, succeeded, hin, htold⟩ := h
  exact ⟨b, opened, attached, armed, job, host, succeeded, hin, htold.of_eq hevents hdevices⟩

theorem Settled.of_eq (h : Settled p o start m) (hevents : m'.events = m.events)
    (hdevices : m'.devices = m.devices) : Settled p o start m' := by
  obtain ⟨taken, calls, hlength, hnodup, hword, hrecord, hheard⟩ := h
  exact ⟨taken, calls, hlength, hnodup, hword, hevents.trans hrecord, hdevices ▸ hheard⟩

theorem Ledger.of_eq (hledger : Ledger p o start c m) (hevents : m'.events = m.events)
    (hdevices : m'.devices = m.devices) : Ledger p o start c m' := by
  rw [Ledger] at hledger ⊢
  split at hledger
  · exact hledger.of_eq hevents hdevices
  · exact hledger.of_eq hevents hdevices
  · exact hledger.of_eq hevents hdevices
  · obtain ⟨b, opened, attached, armed, hin, htold⟩ := hledger
    exact ⟨b, opened, attached, armed, hin, htold.of_eq hevents hdevices⟩
  · exact Submitted.of_eq hledger hevents hdevices
  · exact Submitted.of_eq hledger hevents hdevices
  · exact Submitted.of_eq hledger hevents hdevices
  · exact Settled.of_eq hledger hevents hdevices
  · exact Settled.of_eq hledger hevents hdevices

theorem ledger_advance (hstage : c.stage = step.requires) (h : Phase o c)
    (hledger : Ledger p o start c m) (hadv : Advance p c m step a c' m') :
    Ledger p o start c' m' := by
  -- A step that takes something or calls a card adds to the record what the next stage asks for;
  -- the other ones leave it alone.
  cases hadv with
  | noInput hinput =>
      obtain rfl := h.unconfigured hstage
      exact hledger
  | @input path buffer m' hinput hload =>
      obtain rfl := h.unconfigured hstage
      have hbefore : Told p o start [] [] m := hledger
      have hafter : Told p o start [buffer] [] m' := by
        refine ⟨?_, devices_of_loadFile hload ▸ hbefore.devices⟩
        rw [events_of_loadFile hload, hbefore.events]
        simp
      exact hafter
  | noOutput hsize houtput =>
      obtain ⟨input, params, -, rfl⟩ := h.inputStaged hstage
      exact hledger
  | @output buffer m' hsize houtput hbuffer =>
      obtain ⟨input, params, -, rfl⟩ := h.inputStaged hstage
      have hbefore : Told p o start (input.toList ++ []) [] m := hledger
      obtain ⟨memory, -, hnoted⟩ := Machine.allocate_ok_spec (outputBuffer_ok hbuffer).2
      have hafter : Told p o start (input.toList ++ [buffer]) [] m' := by
        refine ⟨?_, hnoted.devices ▸ hbefore.devices⟩
        rw [hnoted.events, Machine.events_recording, hbefore.events]
        simp
      exact hafter
  | session hacquire =>
      obtain ⟨input, output, params, -, rfl⟩ := h.staged hstage
      obtain ⟨b, opened, attached, armed, hb, rfl, hcalled⟩ := Session.called_of_acquire hacquire
      have hbefore : Told p o start (input.toList ++ output.toList) [] m := hledger
      exact ⟨b, opened, attached, armed, ⟨hb, rfl⟩, hbefore.called hcalled⟩
  | @executed job done m' hjob hsubmit =>
      obtain ⟨input, output, params, session, -, -, rfl⟩ := h.sessionOpen hstage
      obtain ⟨b, opened, attached, armed, hin, htold⟩ := hledger
      have hprepared : Told p o start _ _ (m.noteAll [preparation]) := htold.of_eq rfl rfl
      have hdone := hprepared.submitted hin hsubmit
      exact ⟨b, opened, attached, armed, job, _, true, ⟨hin.backend, hin.session⟩,
        hdone.of_eq rfl rfl⟩
  | written hpath hbuffer hwrite =>
      exact hledger.of_eq ((Machine.events_of_writeFile hwrite).trans rfl)
        ((Machine.devices_of_writeFile hwrite).trans rfl)
  | unwritten hnone => exact hledger
  | returnCode hjob hretc => exact hledger
  | compared hverify hspaces hinput houtput =>
      obtain ⟨input, output, params, session, job, retc, -, -, -, rfl⟩ := h.executed hstage
      obtain ⟨b, opened, attached, armed, job, host, succeeded, hin, htold⟩ := hledger
      refine ⟨b, opened, attached, armed, job, host, succeeded, ⟨hin.backend, hin.session⟩, ?_⟩
      split <;> exact htold.of_eq rfl rfl
  | skipped hwhy hm =>
      obtain ⟨input, output, params, session, job, retc, -, -, -, rfl⟩ := h.executed hstage
      obtain ⟨b, opened, attached, armed, job, host, succeeded, hin, htold⟩ := hledger
      refine ⟨b, opened, attached, armed, job, host, succeeded, ⟨hin.backend, hin.session⟩, ?_⟩
      rcases hm with rfl | rfl <;> exact htold.of_eq rfl rfl

/-- A step that fails settles the record. -/
theorem settled_setback (hstage : c.stage = step.requires) (h : Phase o c)
    (hnodup : c.buffers.Nodup) (hledger : Ledger p o start c m) (hset : Setback p c m step e m') :
    Settled p o start (c.teardown m').2 := by
  cases hset with
  | input hinput hload =>
      obtain rfl := h.unconfigured hstage
      have hdevices := devices_of_loadFile hload
      have hbefore : Told p o start [] [] m := hledger
      rcases events_of_loadFile_error hload with hevents | ⟨b, hevents⟩
      · exact (hledger.of_eq hevents hdevices).teardown h hnodup
      · -- the buffer was taken and freed before the client had it
        refine ⟨[b], [], by simp, by simp, CardWord.refused Session.Refused.untried, ?_,
          hdevices ▸ hbefore.devices⟩
        have hsame : ((fresh o : Client σ).teardown m').2 = m' := rfl
        rw [hsame, hevents, hbefore.events]
        simp
  | oversized hsize => exact hledger.teardown h hnodup
  | output hsize houtput hbuffer =>
      rw [eq_of_outputBuffer_error hbuffer]
      exact hledger.teardown h hnodup
  | session hacquire =>
      obtain ⟨input, output, params, -, rfl⟩ := h.staged hstage
      obtain ⟨calls, hcalls, hcalled⟩ := Session.called_of_acquire_error hacquire
      have hbefore : Told p o start (input.toList ++ output.toList) [] m := hledger
      exact (hbefore.called hcalled).settled_of_refused rfl hnodup hcalls
  | job hjob =>
      exact (hledger.of_eq (Machine.events_noteAll [preparation] m) rfl).teardown h hnodup
  | @execution job done e m' hjob hsubmit =>
      obtain ⟨input, output, params, session, -, -, rfl⟩ := h.sessionOpen hstage
      obtain ⟨b, opened, attached, armed, hin, htold⟩ := hledger
      have hprepared : Told p o start _ _ (m.noteAll [preparation]) := htold.of_eq rfl rfl
      have hdone := hprepared.submitted hin hsubmit
      exact hdone.settled_of_session hin hnodup
        (CardWord.executed opened attached armed job _ false)
  | write hpath hbuffer hwrite =>
      exact (hledger.of_eq ((Machine.events_of_writeFile hwrite).trans rfl)
        ((Machine.devices_of_writeFile hwrite).trans rfl)).teardown h hnodup
  | noJob hjob => exact hledger.teardown h hnodup
  | returnCode hjob hretc => exact hledger.teardown h hnodup

/-- **Every move keeps the record in order.** -/
theorem preserved_ledger (hA : p.allocator.Sound) (o : Options) (start : Machine σ)
    (others : List HostBuffer) :
    Preserved p fun c m => Phase o c ∧ Holding c.buffers others m ∧ Ledger p o start c m where
  advance hstage h hadv :=
    ⟨phase_advance hstage h.1 hadv, holding_advance hA hstage h.1 h.2.1 hadv,
      ledger_advance hstage h.1 h.2.2 hadv⟩
  setback hstage h hset := by
    obtain ⟨hphase, hholding, hledger⟩ := h
    have hsettled := settled_setback hstage hphase hholding.nodup hledger hset
    exact ⟨phase_fail hphase _ _, holding_fail (holding_setback hA hstage hphase hholding hset) _,
      hsettled⟩
  teardown h := by
    obtain ⟨hphase, hholding, hledger⟩ := h
    exact ⟨phase_teardown hphase.options _, holding_teardown hholding,
      ledger_of_settled (hledger.teardown hphase hholding.nodup)⟩

/-! ### Whole lives -/

/-- A client that is dropped leaves a settled record, and the buffers of others. -/
theorem settled_drop (hA : p.allocator.Sound) (o : Options) (calls : List Call)
    (hm : m.memory.Sound) :
    let after := afterCalls p calls (fresh o) m
    Settled p o m (after.1.drop after.2) ∧ Holding [] m.memory.live (after.1.drop after.2) := by
  have hstart : Holding (fresh o : Client σ).buffers m.memory.live m := ⟨hm, List.Perm.refl _⟩
  obtain ⟨hphase, hholding, hledger⟩ := (preserved_ledger hA o m m.memory.live).afterCalls
    ⟨phase_fresh o, hstart, ledger_fresh p o m⟩ calls
  exact ⟨hledger.teardown hphase hholding.nodup, holding_teardown hholding⟩

/-- **Every resource is taken at most once and given back exactly once, in order.**  Whatever a
client is asked to do and however the cards answer, when it is dropped the calls that have reached
its backend make up a word, its buffers were freed after the last of these calls, and live are the
buffers that were live before: the register knows no others. -/
theorem releases_everything_once (p : Platform σ) (hA : p.allocator.Sound) (o : Options)
    (calls : List Call) (m : Machine σ) (hm : m.memory.Sound) :
    let after := afterCalls p calls (fresh o) m
    let final := after.1.drop after.2
    (∃ (taken : List HostBuffer) (word : List Heard), taken.length ≤ 2 ∧ taken.Nodup ∧
        CardWord o word ∧
        final.events = m.events ++ taken.map .allocated ++ word.map (Heard.event o.backend) ++
          taken.reverse.map .freed ∧
        p.Hears o.backend m.devices word final.devices) ∧
      final.memory.live.Perm m.memory.live ∧
      ∀ addr, final.memory.registered? addr = m.memory.registered? addr := by
  intro after final
  obtain ⟨hsettled, hheld⟩ := settled_drop hA o calls hm
  exact ⟨hsettled, hheld.live, HostMemory.registered?_congr hm hheld.sound hheld.live⟩

/-- A client of the program that is dropped while its session is open, with a backend that keeps a
list of what it hears. -/
theorem releases_everything_once_program :
    let p := (Program.platform .slots 0).recording
    let m : Machine (Software.Cards × List Heard) := ⟨.empty, .fresh, (.none, []), [], []⟩
    let o := Options.standard Device.software
    let after := afterCalls p [.step .stageInput, .step .stageOutput, .step .acquireSession]
      (fresh o) m
    let final := after.1.drop after.2
    let calls := Session.opening 0 true 0 0 true ++ Session.closing 0 0 0
    p.allocator.Sound ∧ m.memory.Sound ∧ CardWord o final.devices.2 ∧
      final.devices.2.map (Heard.event o.backend) = calls.map (Heard.event o.backend) ∧
      final.events = [.allocated ⟨0x200000000000, Options.standardSize⟩] ++
        calls.map (Heard.event o.backend) ++ [.freed ⟨0x200000000000, Options.standardSize⟩] ∧
      final.memory.live = [] := by
  intro p m o
  have hrun := releases_everything_once p Allocator.sound_slots o
    [.step .stageInput, .step .stageOutput, .step .acquireSession] m HostMemory.sound_empty
  have hcalls :
      let after := afterCalls p [.step .stageInput, .step .stageOutput, .step .acquireSession]
        (fresh o) m
      let final := after.1.drop after.2
      let calls := Session.opening 0 true 0 0 true ++ Session.closing 0 0 0
      final.devices.2.map (Heard.event o.backend) = calls.map (Heard.event o.backend) ∧
        final.events = [.allocated ⟨0x200000000000, Options.standardSize⟩] ++
          calls.map (Heard.event o.backend) ++
            [.freed ⟨0x200000000000, Options.standardSize⟩] := by decide +kernel
  -- The run itself is of no more use, and nothing should try to evaluate it.
  generalize afterCalls p [.step .stageInput, .step .stageOutput, .step .acquireSession]
    (fresh o) m = after at hrun hcalls ⊢
  obtain ⟨hword, hevents⟩ := hcalls
  obtain ⟨⟨_, word, -, -, hcard, -, hheard⟩, hlive, -⟩ := hrun
  obtain ⟨hlist, -⟩ := Platform.Hears.recorded (p := Program.platform .slots 0) hheard
  have hsame : (after.1.drop after.2).devices.2 = word := hlist.trans (List.nil_append word)
  exact ⟨Allocator.sound_slots, HostMemory.sound_empty, hsame ▸ hcard, hword, hevents,
    List.perm_nil.1 hlive⟩

/-- **A backend that keeps a list of what it hears has a word on it** when a client was dropped. -/
theorem recorded_in_order (p : Platform σ) (hA : p.allocator.Sound) (o : Options)
    (calls : List Call) (m : Machine (σ × List Heard)) (hm : m.memory.Sound) :
    let after := afterCalls p.recording calls (fresh o) m
    ∃ word, CardWord o word ∧
      (after.1.drop after.2).devices.2 = m.devices.2 ++ word := by
  intro after
  obtain ⟨⟨taken, word, -, -, hword, -, hheard⟩, -⟩ := settled_drop (p := p.recording) hA o calls hm
  exact ⟨word, hword, hheard.recorded.1⟩

end Client

end Offload
