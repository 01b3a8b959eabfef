/-
**What a client holds at each stage.**

The stage of a client tells what it holds: nothing at first, then the staged buffers, then a session
as well, and nothing again in the end.  It also tells what its parameters are: those of the options,
except that a staged buffer takes the place of the source or of the destination.

Main definitions:

* `Client.StagedInput`, `Client.Staged` — the outcomes of staging: buffers and parameters;
* `Client.Phase` — what holds of a client, by its stage;
* `Client.buffers` — the buffers that a client holds.

Main results:

* `Client.Staged.source`, `Client.Staged.target` — where a job reads and where it writes;
* `Client.preserved_phase` — **every move keeps to the phases**;
* `Client.preserved_holding` — **a client's buffers are live, and so are those of others**, after
  any move and whatever the cards do;
* `Client.execute_session` — a job is what the action of the session makes of it.
-/

import Offload.Proofs.Client.Moves
import Offload.Proofs.Client.Staging
import Offload.Proofs.Session

set_option relaxedAutoImplicit false
set_option autoImplicit false

namespace Offload

namespace Client

open Machine (Holding Called)

variable {σ : Type} {p : Platform σ} {o : Options} {c c' : Client σ} {m m' : Machine σ}
  {step : Step} {a : Answer} {e : Error} {input output : Option HostBuffer} {params : Parameters}
  {held others : List HostBuffer}

/-! ### The outcomes of staging -/

/-- What staging the input comes to.  A staged file sets source and size; without a file they stay
as the options say. -/
inductive StagedInput (o : Options) : Option HostBuffer → Parameters → Prop
  | verbatim (hinput : o.input = none) : StagedInput o none (.ofOptions o)
  | file {path : Path} {b : HostBuffer} (hinput : o.input = some path)
      (hsize : b.size < UInt32.size) :
      StagedInput o (some b)
        { Parameters.ofOptions o with size := b.size, spaceIn := .hostDram, addrIn := b.addr }

/-- What staging input and output comes to.  The size fits a descriptor, and an output buffer has
room for the data and for the guard. -/
inductive Staged (o : Options) : Option HostBuffer → Option HostBuffer → Parameters → Prop
  | verbatim {input : Option HostBuffer} {params : Parameters} (hinput : StagedInput o input params)
      (hsize : params.size < UInt32.size) (houtput : o.stagesOutput = false) :
      Staged o input none params
  | buffer {input : Option HostBuffer} {params : Parameters} {b : HostBuffer}
      (hinput : StagedInput o input params) (hsize : params.size < UInt32.size)
      (houtput : o.stagesOutput = true) (hb : b.size = params.size + o.guardLength) :
      Staged o input (some b) { params with spaceOut := .hostDram, addrOut := b.addr }

theorem Staged.size_lt (h : Staged o input output params) : params.size < UInt32.size := by
  cases h with
  | verbatim hinput hsize houtput => exact hsize
  | buffer hinput hsize houtput hb => exact hsize

/-- Parameters whose size fits a descriptor describe a job. -/
theorem jobOf_eq_ok (h : params.size < UInt32.size) :
    ∃ len : UInt32, len.toNat = params.size ∧
      jobOf params = .ok
        ⟨0, ⟨params.addrIn, len, params.spaceIn, .ofSource⟩,
          ⟨params.addrOut, len, params.spaceOut, .ofDestination⟩⟩ := by
  have hlen : descriptorLength params.size = some (UInt32.ofNat params.size) := if_pos h
  refine ⟨_, descriptorLength_eq_some_iff.1 hlen, ?_⟩
  simp only [jobOf, Parameters.request, JobRequest.job, Job.changecase, hlen]

/-- Where a job reads: from the input buffer if there is one, and as the options say otherwise. -/
theorem Staged.source (h : Staged o input output params) :
    (∃ b, input = some b ∧ o.input.isSome = true ∧ params.spaceIn = .hostDram ∧
        params.addrIn = b.addr ∧ params.size = b.size) ∨
      (input = none ∧ o.input = none ∧ params.spaceIn = o.sourceSpace ∧
        params.addrIn = o.sourceAddr.getD 0) := by
  cases h with
  | verbatim hinput hsize houtput =>
      cases hinput with
      | verbatim hnone => exact Or.inr ⟨rfl, hnone, rfl, rfl⟩
      | @file path b hsome hlt => exact Or.inl ⟨b, rfl, hsome ▸ rfl, rfl, rfl, rfl⟩
  | buffer hinput hsize houtput hb =>
      cases hinput with
      | verbatim hnone => exact Or.inr ⟨rfl, hnone, rfl, rfl⟩
      | @file path b hsome hlt => exact Or.inl ⟨b, rfl, hsome ▸ rfl, rfl, rfl, rfl⟩

/-- Where a job writes: to the output buffer if there is one, and as the options say otherwise. -/
theorem Staged.target (h : Staged o input output params) :
    (∃ b, output = some b ∧ o.stagesOutput = true ∧ params.spaceOut = .hostDram ∧
        params.addrOut = b.addr ∧ b.size = params.size + o.guardLength) ∨
      (output = none ∧ o.stagesOutput = false ∧ params.spaceOut = o.targetSpace ∧
        params.addrOut = o.targetAddr.getD 0) := by
  cases h with
  | verbatim hinput hsize houtput =>
      cases hinput with
      | verbatim hnone => exact Or.inr ⟨rfl, houtput, rfl, rfl⟩
      | file hsome hlt => exact Or.inr ⟨rfl, houtput, rfl, rfl⟩
  | @buffer params b hinput hsize houtput hb => exact Or.inl ⟨b, rfl, houtput, rfl, rfl, hb⟩

/-- The input buffer of a staged client is the source of its job. -/
theorem Staged.source_of_some {b : HostBuffer} (h : Staged o input output params)
    (hb : input = some b) :
    params.size = b.size ∧ params.spaceIn = .hostDram ∧ params.addrIn = b.addr := by
  rcases h.source with ⟨b', hb', -, hspace, haddr, hsize⟩ | ⟨hnone, -⟩
  · cases hb.symm.trans hb'
    exact ⟨hsize, hspace, haddr⟩
  · cases hb.symm.trans hnone

/-- The output buffer of a staged client is the target of its job. -/
theorem Staged.target_of_some {b : HostBuffer} (h : Staged o input output params)
    (hb : output = some b) :
    b.size = params.size + (if o.verify then 1024 else 0) ∧ params.spaceOut = .hostDram ∧
      params.addrOut = b.addr := by
  rcases h.target with ⟨b', hb', -, hspace, haddr, hsize⟩ | ⟨hnone, -⟩
  · cases hb.symm.trans hb'
    exact ⟨hsize, hspace, haddr⟩
  · cases hb.symm.trans hnone

/-- What holds of a client, by its stage. -/
def Phase (o : Options) (c : Client σ) : Prop :=
  match c.stage with
  | .unconfigured => c = fresh o
  | .inputStaged =>
    ∃ input params, StagedInput o input params ∧
      c = { options := o, stage := .inputStaged, input, output := none, params, session := none,
            job := none }
  | .staged =>
    ∃ input output params, Staged o input output params ∧
      c = { options := o, stage := .staged, input, output, params, session := none, job := none }
  | .sessionOpen =>
    ∃ input output params session, Staged o input output params ∧ session.Held o.backend ∧
      c = { options := o, stage := .sessionOpen, input, output, params, session := some session,
            job := none }
  | .executed | .verified | .skipped =>
    ∃ input output params session job retc, Staged o input output params ∧
      session.Held o.backend ∧ jobOf params = .ok job ∧
      c = { options := o, stage := c.stage, input, output, params, session := some session,
            job := some { job with retc } }
  | .tornDown | .failed =>
    c.options = o ∧ c.session = none ∧ c.input = none ∧ c.output = none

theorem phase_fresh (o : Options) : Phase o (fresh o : Client σ) := rfl

/-- The options of a client never change. -/
theorem Phase.options (h : Phase o c) : c.options = o := by
  rw [Phase] at h
  split at h
  · rw [h]
    rfl
  · obtain ⟨input, params, -, rfl⟩ := h
    rfl
  · obtain ⟨input, output, params, -, rfl⟩ := h
    rfl
  · obtain ⟨input, output, params, session, -, -, rfl⟩ := h
    rfl
  · obtain ⟨input, output, params, session, job, retc, -, -, -, hc⟩ := h
    rw [hc]
  · obtain ⟨input, output, params, session, job, retc, -, -, -, hc⟩ := h
    rw [hc]
  · obtain ⟨input, output, params, session, job, retc, -, -, -, hc⟩ := h
    rw [hc]
  · exact h.1
  · exact h.1

theorem Phase.unconfigured (h : Phase o c) (hstage : c.stage = .unconfigured) : c = fresh o := by
  rw [Phase, hstage] at h
  exact h

theorem Phase.inputStaged (h : Phase o c) (hstage : c.stage = .inputStaged) :
    ∃ input params, StagedInput o input params ∧
      c = { options := o, stage := .inputStaged, input, output := none, params, session := none,
            job := none } := by
  rw [Phase, hstage] at h
  exact h

theorem Phase.staged (h : Phase o c) (hstage : c.stage = .staged) :
    ∃ input output params, Staged o input output params ∧
      c = { options := o, stage := .staged, input, output, params, session := none,
            job := none } := by
  rw [Phase, hstage] at h
  exact h

/-- What a staged client has staged is what its options say. -/
theorem Phase.staged_of_stage (h : Phase o c) (hstage : c.stage = .staged) :
    Staged o c.input c.output c.params := by
  obtain ⟨input, output, params, hst, rfl⟩ := h.staged hstage
  exact hst

theorem Phase.sessionOpen (h : Phase o c) (hstage : c.stage = .sessionOpen) :
    ∃ input output params session, Staged o input output params ∧ session.Held o.backend ∧
      c = { options := o, stage := .sessionOpen, input, output, params, session := some session,
            job := none } := by
  rw [Phase, hstage] at h
  exact h

theorem Phase.executed (h : Phase o c) (hstage : c.stage = .executed) :
    ∃ input output params session job retc, Staged o input output params ∧
      session.Held o.backend ∧ jobOf params = .ok job ∧
      c = { options := o, stage := .executed, input, output, params, session := some session,
            job := some { job with retc } } := by
  rw [Phase, hstage] at h
  exact h

/-- A staged client is ready for a session and a job. -/
theorem Phase.executed_of_staged {session : Session σ} {job : Job} (h : Phase o c)
    (hstage : c.stage = .staged) (hheld : session.Held o.backend)
    (hjob : jobOf c.params = .ok job) (retc : UInt32) :
    Phase o { c with
      stage := .executed, session := some session, job := some { job with retc } } := by
  obtain ⟨input, output, params, hst, rfl⟩ := h.staged hstage
  exact ⟨input, output, params, session, job, retc, hst, hheld, hjob, rfl⟩

/-- A client that holds an output buffer has staged all that its options say. -/
theorem Phase.staged_of_output {b : HostBuffer} (h : Phase o c) (hb : c.output = some b) :
    Staged o c.input c.output c.params := by
  cases hstage : c.stage with
  | unconfigured =>
      rw [h.unconfigured hstage] at hb
      cases hb
  | inputStaged =>
      obtain ⟨input, params, -, rfl⟩ := h.inputStaged hstage
      cases hb
  | staged => exact h.staged_of_stage hstage
  | sessionOpen =>
      obtain ⟨input, output, params, session, hst, -, rfl⟩ := h.sessionOpen hstage
      exact hst
  | executed | verified | skipped =>
      rw [Phase, hstage] at h
      obtain ⟨input, output, params, session, job, retc, hst, -, -, hc⟩ := h
      rw [hc]
      exact hst
  | tornDown | failed =>
      rw [Phase, hstage] at h
      cases h.2.2.2.symm.trans hb

theorem Phase.of_closed (h : Phase o c) (hstage : c.stage = .tornDown ∨ c.stage = .failed) :
    c.options = o ∧ c.session = none ∧ c.input = none ∧ c.output = none := by
  rcases hstage with hstage | hstage <;> rw [Phase, hstage] at h
  · exact h
  · exact h

/-- A client that was torn down has let go of everything. -/
theorem phase_teardown (h : c.options = o) (m : Machine σ) : Phase o (c.teardown m).1 := by
  by_cases hfailed : c.stage = .failed <;> simp [Phase, teardown, hfailed, h]

/-- A job that is submitted to a session that is held is executed by the action, whatever comes of
it. -/
theorem submit_spec {session : Session σ} {backend : String} (hheld : session.Held backend)
    {job done : Job} {timeout : Nat} {r : Except Error Unit}
    (h : submit (some session) job timeout m = (r, done, m')) :
    done = { job with retc := done.retc } ∧ m'.files = m.files ∧
      m'.events = m.events ++ [.card backend (.execute job timeout) (Machine.succeeded r)] ∧
      ∀ held others, Holding held others m → Holding held others m' := by
  obtain ⟨action, card, rfl, hbackend, hname⟩ := hheld
  have hrun : m.execute action job timeout = (r, done, m') := h
  have hjob := congrArg (fun t => t.2.1) hrun
  have hfiles := Machine.files_execute action job timeout m
  have hevents := Machine.events_execute action job timeout m
  rw [hrun] at hfiles hevents
  rw [hbackend, hname] at hevents
  refine ⟨?_, hfiles, hevents, ?_⟩
  · simp only [Machine.execute] at hjob
    rw [← hjob]
  · intro held others hm
    have hkept := hm.execute action job timeout
    rw [hrun] at hkept
    exact hkept

theorem phase_advance (hstage : c.stage = step.requires) (h : Phase o c)
    (hadv : Advance p c m step a c' m') : Phase o c' := by
  -- The stage that a step requires tells what the client was, and the move what it becomes.
  cases hadv with
  | noInput hinput =>
      obtain rfl := h.unconfigured hstage
      exact ⟨none, _, StagedInput.verbatim hinput, rfl⟩
  | @input path buffer m' hinput hload =>
      obtain rfl := h.unconfigured hstage
      exact ⟨some buffer, _, StagedInput.file hinput (size_of_loadFile hload), rfl⟩
  | noOutput hsize houtput =>
      obtain ⟨input, params, hin, rfl⟩ := h.inputStaged hstage
      exact ⟨input, none, params, Staged.verbatim hin hsize houtput, rfl⟩
  | @output buffer m' hsize houtput hbuffer =>
      obtain ⟨input, params, hin, rfl⟩ := h.inputStaged hstage
      exact ⟨input, some buffer, _,
        Staged.buffer hin hsize houtput (outputBuffer_ok hbuffer).1, rfl⟩
  | @session session m' hacquire =>
      obtain ⟨input, output, params, hst, rfl⟩ := h.staged hstage
      exact ⟨input, output, params, session, hst, Session.held_of_acquire hacquire, rfl⟩
  | @executed job done m' hjob hsubmit =>
      obtain ⟨input, output, params, session, hst, hheld, rfl⟩ := h.sessionOpen hstage
      obtain ⟨hdone, -, -⟩ := submit_spec hheld hsubmit
      rw [hdone]
      exact ⟨input, output, params, session, job, done.retc, hst, hheld, hjob, rfl⟩
  | written hpath hbuffer hwrite => exact h
  | unwritten hnone => exact h
  | returnCode hjob hretc => exact h
  | compared hverify hspaces hinput houtput =>
      obtain ⟨input, output, params, session, job, retc, hst, hheld, hjob, rfl⟩ :=
        h.executed hstage
      exact ⟨input, output, params, session, job, retc, hst, hheld, hjob, rfl⟩
  | skipped hwhy hm =>
      obtain ⟨input, output, params, session, job, retc, hst, hheld, hjob, rfl⟩ :=
        h.executed hstage
      exact ⟨input, output, params, session, job, retc, hst, hheld, hjob, rfl⟩

/-- A step that fails leaves a client that has let go of everything. -/
theorem phase_fail (h : Phase o c) (e : Error) (m : Machine σ) :
    Phase o (c.fail e m : Turn σ Answer).2.1 := by
  have hoptions : ({ c with stage := .failed } : Client σ).options = o := h.options
  exact phase_teardown hoptions m

/-- **Every move keeps to the phases.** -/
theorem preserved_phase (p : Platform σ) (o : Options) :
    Preserved p fun c (_ : Machine σ) => Phase o c where
  advance hstage h hadv := phase_advance hstage h hadv
  setback _ h _ := phase_fail h _ _
  teardown h := phase_teardown (Phase.options h) _

/-! ### Whose buffers are live -/

/-- The buffers that a client holds. -/
def buffers (c : Client σ) : List HostBuffer := c.input.toList ++ c.output.toList

theorem mem_buffers_of_input {b : HostBuffer} (h : c.input = some b) : b ∈ c.buffers := by
  simp [buffers, h]

theorem mem_buffers_of_output {b : HostBuffer} (h : c.output = some b) : b ∈ c.buffers := by
  simp [buffers, h]

/-- Two buffers of one client have no byte in common. -/
theorem apart_of_holding {b b' : HostBuffer} (h : Holding c.buffers others m)
    (hb : c.input = some b) (hb' : c.output = some b') : HostBuffer.Apart b b' := by
  have hlive : (b :: b' :: others).Perm m.memory.live := by
    have hperm := h.live.symm
    rw [buffers, hb, hb'] at hperm
    exact hperm
  have hpairs : (b :: b' :: others).Pairwise HostBuffer.Apart :=
    (hlive.pairwise_iff HostBuffer.Apart.symm).2 h.sound.apart
  exact List.rel_of_pairwise_cons hpairs List.mem_cons_self

theorem addr_ne_of_holding {b b' : HostBuffer} (h : Holding c.buffers others m)
    (hb : c.input = some b) (hb' : c.output = some b') : b.addr ≠ b'.addr := by
  have hin := h.mem_live (mem_buffers_of_input hb)
  have hout := h.mem_live (mem_buffers_of_output hb')
  exact HostBuffer.addr_ne_of_apart (h.sound.placed b hin).nonempty
    (h.sound.placed b' hout).nonempty (apart_of_holding h hb hb')

@[simp] theorem memory_releaseSession (session : Option (Session σ)) (m : Machine σ) :
    (releaseSession session m).memory = m.memory := by
  rcases session with - | ⟨- | action, - | card⟩ <;> rfl

@[simp] theorem files_releaseSession (session : Option (Session σ)) (m : Machine σ) :
    (releaseSession session m).files = m.files := by
  rcases session with - | ⟨- | action, - | card⟩ <;> rfl

@[simp] theorem files_freeBuffer (what : String) (buffer : Option HostBuffer) (m : Machine σ) :
    (freeBuffer what buffer m).files = m.files := by
  cases buffer <;> rfl

/-- A teardown leaves the files alone. -/
@[simp] theorem files_teardown (c : Client σ) (m : Machine σ) :
    (c.teardown m).2.files = m.files := by
  simp [teardown]

/-- Staging changes no file, whether a step of it succeeds, fails or is refused. -/
theorem files_staging (hstep : step = .stageInput ∨ step = .stageOutput) (c : Client σ)
    (m : Machine σ) : (c.answer p m (.step step)).2.2.files = m.files := by
  by_cases hstage : c.stage = step.requires
  · rw [answer]
    rcases answerStep_cases (p := p) (m := m) hstage with
      ⟨e, m', hset, heq⟩ | ⟨a, c', m', hadv, heq⟩ <;> rw [heq]
    · refine (files_teardown _ m').trans ?_
      rcases hstep with rfl | rfl
      · cases hset with
        | input hinput hload => exact files_of_loadFile hload
      · cases hset with
        | oversized hsize => rfl
        | output hsize houtput hbuffer => exact files_of_outputBuffer hbuffer
    · rcases hstep with rfl | rfl
      · cases hadv with
        | noInput hinput => rfl
        | input hinput hload => exact files_of_loadFile hload
      · cases hadv with
        | noOutput hsize houtput => rfl
        | output hsize houtput hbuffer => exact files_of_outputBuffer hbuffer
  · rw [answer_of_ne_requires hstage]

theorem holding_freeBuffer (what : String) {buffer : Option HostBuffer}
    (h : Holding (buffer.toList ++ held) others m) :
    Holding held others (freeBuffer what buffer m) := by
  cases buffer with
  | none => exact h
  | some b =>
      have hnoted := Machine.memory_note .debug .client ("freeing " ++ what ++ " buffer") m
      exact (h.of_memory_eq hnoted).free

/-- A teardown frees what the client holds and nothing else. -/
theorem holding_teardown (h : Holding c.buffers others m) :
    Holding [] others (c.teardown m).2 := by
  have hreleased : Holding c.buffers others (releaseSession c.session m) :=
    h.of_memory_eq (memory_releaseSession c.session m)
  have houtput : Holding c.input.toList others
      (freeBuffer "output" c.output (releaseSession c.session m)) :=
    holding_freeBuffer "output" (hreleased.perm List.perm_append_comm)
  exact holding_freeBuffer "input" (houtput.perm (List.append_nil _ ▸ List.Perm.refl _))

theorem holding_fail (h : Holding c.buffers others m) (e : Error) :
    Holding [] others (c.fail e m : Turn σ Answer).2.2 := by
  have hsame : (c.fail e m : Turn σ Answer).2.2 = (c.teardown m).2 := rfl
  rw [hsame]
  exact holding_teardown h

theorem holding_advance (hA : p.allocator.Sound) (hstage : c.stage = step.requires)
    (h : Phase o c) (hm : Holding c.buffers others m) (hadv : Advance p c m step a c' m') :
    Holding c'.buffers others m' := by
  cases hadv with
  | noInput hinput => exact hm
  | input hinput hload =>
      obtain rfl := h.unconfigured hstage
      exact holding_of_loadFile hA hm hload
  | noOutput hsize houtput => exact hm
  | output hsize houtput hbuffer =>
      obtain ⟨input, params, -, rfl⟩ := h.inputStaged hstage
      have hgranted := holding_of_outputBuffer hA hm hbuffer
      -- The output buffer is the newest one, but a client lists it after the input buffer.
      exact hgranted.perm (by simpa [buffers, fresh] using (List.perm_append_singleton _ _).symm)
  | session hacquire =>
      obtain ⟨_, _, _, _, -, -, hcalled⟩ := Session.called_of_acquire hacquire
      exact hm.of_memory_eq hcalled.memory
  | @executed job done m' hjob hsubmit =>
      obtain ⟨input, output, params, session, -, hheld, rfl⟩ := h.sessionOpen hstage
      obtain ⟨-, -, -, hkept⟩ := submit_spec hheld hsubmit
      exact (hkept _ _ (hm.of_memory_eq (Machine.memory_noteAll [preparation] m))).of_memory_eq rfl
  | written hpath hbuffer hwrite =>
      exact hm.of_memory_eq ((Machine.memory_of_writeFile hwrite).trans rfl)
  | unwritten hnone => exact hm
  | returnCode hjob hretc => exact hm
  | compared hverify hspaces hinput houtput =>
      refine hm.of_memory_eq ?_
      split <;> rfl
  | skipped hwhy hskip =>
      refine hm.of_memory_eq ?_
      rcases hskip with rfl | rfl <;> rfl

/-- When a step fails, the buffers that are live before the teardown are those from before the
step. -/
theorem holding_setback (hA : p.allocator.Sound) (hstage : c.stage = step.requires)
    (h : Phase o c) (hm : Holding c.buffers others m) (hset : Setback p c m step e m') :
    Holding c.buffers others m' := by
  -- Nothing that a failed step took is left over, so that a teardown sees what was held before.
  cases hset with
  | input hinput hload => exact holding_of_loadFile_error hA hm hload
  | oversized hsize => exact hm
  | output hsize houtput hbuffer => exact eq_of_outputBuffer_error hbuffer ▸ hm
  | session hacquire =>
      obtain ⟨calls, -, hcalled⟩ := Session.called_of_acquire_error hacquire
      exact hm.of_memory_eq hcalled.memory
  | job hjob => exact hm.of_memory_eq rfl
  | @execution job done e m' hjob hsubmit =>
      obtain ⟨input, output, params, session, -, hheld, rfl⟩ := h.sessionOpen hstage
      obtain ⟨-, -, -, hkept⟩ := submit_spec hheld hsubmit
      exact hkept _ _ (hm.of_memory_eq (Machine.memory_noteAll [preparation] m))
  | write hpath hbuffer hwrite =>
      exact hm.of_memory_eq ((Machine.memory_of_writeFile hwrite).trans rfl)
  | noJob hjob => exact hm
  | returnCode hjob hretc => exact hm

/-- **A client's buffers are live, and so are those of others**, whatever the client is asked to
do. -/
theorem preserved_holding (hA : p.allocator.Sound) (o : Options) (others : List HostBuffer) :
    Preserved p fun c m => Phase o c ∧ Holding c.buffers others m where
  advance hstage h hadv :=
    ⟨phase_advance hstage h.1 hadv, holding_advance hA hstage h.1 h.2 hadv⟩
  setback hstage h hset :=
    ⟨phase_fail h.1 _ _, holding_fail (holding_setback hA hstage h.1 h.2 hset) _⟩
  teardown h := ⟨phase_teardown (Phase.options h.1) _, holding_teardown h.2⟩

/-! ### The job of a session -/

/-- A job is executed by the action of the session, with its result and its writes. -/
theorem execute_session {s : Session σ} {action : Action σ} {job : Job}
    (hstage : c.stage = .sessionOpen) (hs : c.session = some s) (haction : s.action = some action)
    (hjob : jobOf c.params = .ok job) (m : Machine σ) :
    let run := action.backend.execute action.number job c.options.timeout m.memory m.devices
    (∃ e c' m', run.result = .error e ∧ c.execute p m = (.error e, c', m') ∧ m'.files = m.files) ∨
      ∃ m', run.result = .ok () ∧ c.execute p m = (.ok (),
          { c with stage := .executed, job := some { job with retc := run.retc } }, m') ∧
        m'.memory = Machine.applyWrites run.writes m.memory ∧ m'.files = m.files := by
  intro run
  have hsubmit : submit c.session job c.options.timeout (m.noteAll [preparation]) =
      (m.noteAll [preparation]).execute action job c.options.timeout := by
    rw [hs, submit, haction]
  rw [execute, inStage, if_pos (by exact hstage)]
  simp only [hjob, hsubmit]
  have hresult : ((m.noteAll [preparation]).execute action job c.options.timeout).1 = run.result :=
    rfl
  rcases hrun : (m.noteAll [preparation]).execute action job c.options.timeout with ⟨r, done, m'⟩
  have hdone := congrArg (fun t => t.2.1) hrun
  have hm' := congrArg (fun t => t.2.2) hrun
  simp only at hdone hm'
  rw [hrun] at hresult
  subst hdone hm'
  cases r with
  | error e => exact Or.inl ⟨e, _, _, hresult.symm, rfl, files_teardown _ _⟩
  | ok _ => exact Or.inr ⟨_, hresult.symm, rfl, rfl, rfl⟩

end Client

end Offload
