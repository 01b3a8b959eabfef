/-
**What holds of a client at any time.**

A client may be called in any order, on a machine that is not its own: between two calls others may
take and free buffers, write to host memory and to files, and use the cards.  Whatever happens, the
stage of the client tells which of its parts are there, and the parts fit one another: the
parameters name the buffers that are staged, the buffers have the sizes that the job needs, and the
job that was executed is the one that the parameters describe.

Main definitions:

* `Client.Reachable` — the clients that calls can lead to, with the machines that they are on;
* `Stage.holdsInput`, `Stage.holdsOutput`, `Stage.holdsSession`, `Stage.holdsJob` — which parts are
  there at a stage;
* `Client.Invariant` — what holds of a client at any time.

Main results:

* `Client.Reachable.holding` — a client that can be reached keeps to its phases, and its buffers are
  live;
* `Client.reachable_invariant` — **the invariant holds of every client that can be reached**.
-/

import Offload.Program
import Offload.Proofs.Client.Phases
import Mathlib.Data.List.Perm.Subperm

set_option relaxedAutoImplicit false
set_option autoImplicit false

namespace Offload

/-! ### Stages -/

namespace Stage

/-- The stages with an input buffer, if there is an input file. -/
def holdsInput : Stage → Bool
  | inputStaged | staged | sessionOpen | executed | verified | skipped => true
  | unconfigured | tornDown | failed => false

/-- The stages with an output buffer, if the output is staged in host memory. -/
def holdsOutput : Stage → Bool
  | staged | sessionOpen | executed | verified | skipped => true
  | unconfigured | inputStaged | tornDown | failed => false

/-- The stages with a session. -/
def holdsSession : Stage → Bool
  | sessionOpen | executed | verified | skipped => true
  | unconfigured | inputStaged | staged | tornDown | failed => false

/-- The stages after the execution of the job. -/
def holdsJob : Stage → Bool
  | executed | verified | skipped => true
  | unconfigured | inputStaged | staged | sessionOpen | tornDown | failed => false

variable {s : Stage}

/-- A stage with an output buffer is one with an input buffer. -/
theorem holdsInput_of_holdsOutput (h : s.holdsOutput = true) : s.holdsInput = true := by
  cases s <;> simp_all [holdsInput, holdsOutput]

/-- A stage without an input buffer is one without anything. -/
theorem holds_eq_false (h : s.holdsInput = false) :
    s.holdsOutput = false ∧ s.holdsSession = false ∧ s.holdsJob = false := by
  cases s <;> simp_all [holdsInput, holdsOutput, holdsSession, holdsJob]

end Stage

namespace Client

open HostBuffer (Apart)
open Machine (Holding)

variable {σ : Type} {p : Platform σ} {o : Options} {c : Client σ} {m : Machine σ}
  {input output : Option HostBuffer} {params : Parameters} {b b' : HostBuffer}

/-! ### What can be reached -/

/-- The clients with the given options that any calls can lead to, and the machines that they are
on.  Each call may be answered by other backends.  Between calls anything may happen to the machine,
as long as its memory stays sound and the client's buffers stay live. -/
inductive Reachable (o : Options) : Client σ → Machine σ → Prop
  | fresh {m : Machine σ} (hm : m.memory.Sound) : Reachable o (fresh o) m
  | call {p : Platform σ} {c : Client σ} {m : Machine σ} (hA : p.allocator.Sound)
      (h : Reachable o c m) (call : Call) :
      Reachable o (c.answer p m call).2.1 (c.answer p m call).2.2
  | elsewhere {c : Client σ} {m m' : Machine σ} (h : Reachable o c m) (hm : m'.memory.Sound)
      (hlive : ∀ b ∈ c.buffers, b ∈ m'.memory.live) : Reachable o c m'

/-- Buffers that are live and different from one another are held, and so are all others by
others. -/
theorem exists_holding {held : List HostBuffer} (hm : m.memory.Sound) (hnodup : held.Nodup)
    (hlive : ∀ b ∈ held, b ∈ m.memory.live) : ∃ others, Holding held others m := by
  have hsub : held.Subperm m.memory.live := List.subperm_of_subset hnodup hlive
  obtain ⟨all, hall, hsublist⟩ := List.subperm_iff.1 hsub
  obtain ⟨others, hothers⟩ := hsublist.exists_perm_append
  exact ⟨others, hm, hall.symm.trans hothers⟩

/-- **A client that can be reached keeps to its phases, and its buffers are live.** -/
theorem Reachable.holding (h : Reachable o c m) :
    Phase o c ∧ ∃ others, Holding c.buffers others m := by
  induction h with
  | fresh hm => exact ⟨phase_fresh o, _, hm, List.Perm.refl _⟩
  | call hA h call ih =>
      obtain ⟨hphase, others, hheld⟩ := ih
      obtain ⟨hphase', hheld'⟩ := (preserved_holding hA o others).answer ⟨hphase, hheld⟩ call
      exact ⟨hphase', others, hheld'⟩
  | elsewhere h hm hlive ih =>
      obtain ⟨hphase, others, hheld⟩ := ih
      exact ⟨hphase, exists_holding hm hheld.nodup hlive⟩

/-- Any calls on a fresh client lead to one that can be reached. -/
theorem reachable_afterCalls (hA : p.allocator.Sound) (h : Reachable o c m) (calls : List Call) :
    Reachable o (afterCalls p calls c m).1 (afterCalls p calls c m).2 := by
  induction calls generalizing c m with
  | nil => exact h
  | cons call calls ih =>
      rw [afterCalls_cons]
      exact ih (h.call hA call)

/-! ### The invariant -/

/-- What holds of a client with the given options at any time. -/
structure Invariant (o : Options) (c : Client σ) : Prop where
  options : c.options = o
  /-- A session is held while it is open. -/
  session_iff : c.session.isSome = true ↔ c.stage.holdsSession = true
  /-- At the beginning and at the end no buffer is held. -/
  no_buffer : c.stage = .unconfigured ∨ c.stage = .failed ∨ c.stage = .tornDown →
    c.input = none ∧ c.output = none
  /-- The input is in a buffer once it is staged, if there is a file to stage. -/
  input_iff : c.input.isSome = true ↔ o.input.isSome = true ∧ c.stage.holdsInput = true
  /-- The input buffer is the source of the job and sets its size. -/
  source : ∀ b, c.input = some b →
    c.params.size = b.size ∧ c.params.spaceIn = .hostDram ∧ c.params.addrIn = b.addr
  /-- The output is in a buffer once it is staged, if there is an output file, or if the
  destination is host memory and no address is given for it. -/
  output_iff : c.output.isSome = true ↔
    (o.output.isSome = true ∨ o.targetSpace = .hostDram ∧ o.targetAddr = none) ∧
      c.stage.holdsOutput = true
  /-- The output buffer is the destination of the job, with room for the data and the guard. -/
  target : ∀ b, c.output = some b →
    b.size = c.params.size + (if o.verify then 1024 else 0) ∧ c.params.spaceOut = .hostDram ∧
      c.params.addrOut = b.addr
  /-- The two buffers have no byte in common. -/
  apart : ∀ b b', c.input = some b → c.output = some b' → Apart b b'
  /-- Once all is staged, the size fits a descriptor. -/
  size_lt : c.stage.holdsOutput = true → c.params.size < UInt32.size
  /-- After its execution a job is on record, the one that the parameters describe. -/
  job : c.stage.holdsJob = true → ∃ (job : Job) (len : UInt32), c.job = some job ∧
    len.toNat = c.params.size ∧
    job.input = ⟨c.params.addrIn, len, c.params.spaceIn, .ofSource⟩ ∧
    job.output = ⟨c.params.addrOut, len, c.params.spaceOut, .ofDestination⟩
  /-- Before the execution there is none. -/
  no_job : c.stage = .unconfigured ∨ c.stage = .inputStaged ∨ c.stage = .staged ∨
    c.stage = .sessionOpen → c.job = none

/-- When the output is staged in host memory. -/
theorem stagesOutput_iff (o : Options) :
    o.stagesOutput = true ↔
      o.output.isSome = true ∨ o.targetSpace = .hostDram ∧ o.targetAddr = none := by
  simp [Options.stagesOutput]

/-- What staging the input comes to, buffer by buffer. -/
theorem StagedInput.source (h : StagedInput o input params) :
    (input.isSome = true ↔ o.input.isSome = true) ∧
      ∀ b, input = some b →
        params.size = b.size ∧ params.spaceIn = .hostDram ∧ params.addrIn = b.addr := by
  cases h with
  | verbatim hnone =>
      refine ⟨by simp [hnone], ?_⟩
      intro b hb
      cases hb
  | file hsome hlt =>
      refine ⟨by simp [hsome], ?_⟩
      intro b hb
      cases hb
      exact ⟨rfl, rfl, rfl⟩

theorem Staged.input_iff (h : Staged o input output params) :
    input.isSome = true ↔ o.input.isSome = true := by
  rcases h.source with ⟨b, rfl, hsome, -⟩ | ⟨rfl, hnone, -⟩
  · exact iff_of_true rfl hsome
  · simp [hnone]

theorem Staged.output_iff (h : Staged o input output params) :
    output.isSome = true ↔
      o.output.isSome = true ∨ o.targetSpace = .hostDram ∧ o.targetAddr = none := by
  rw [← stagesOutput_iff]
  rcases h.target with ⟨b, rfl, hstages, -⟩ | ⟨rfl, hstages, -⟩
  · exact iff_of_true rfl hstages
  · simp [hstages]

/-- A client whose buffers are staged keeps the invariant, with a session and a job or without. -/
theorem Invariant.of_staged {session : Option (Session σ)} {stage : Stage} {job : Option Job}
    (h : Staged o input output params)
    (hc : c = ⟨o, stage, params, input, output, session, job⟩)
    (hholds : stage.holdsOutput = true) (hsession : session.isSome = stage.holdsSession)
    (hjob : stage.holdsJob = true → ∃ (j : Job) (retc : UInt32), jobOf params = .ok j ∧
      job = some { j with retc })
    (hnojob : stage.holdsJob = false → job = none)
    (hapart : ∀ b b', c.input = some b → c.output = some b' → Apart b b') : Invariant o c := by
  subst hc
  have hinput := Stage.holdsInput_of_holdsOutput hholds
  have hlt := h.size_lt
  refine
    { options := rfl
      session_iff := by rw [hsession]
      no_buffer := ?_
      input_iff := by simp [h.input_iff, hinput]
      source := fun b hb => h.source_of_some hb
      output_iff := by simp [h.output_iff, hholds]
      target := fun b hb => h.target_of_some hb
      apart := hapart
      size_lt := fun _ => hlt
      job := ?_
      no_job := ?_ }
  · rintro (rfl | rfl | rfl) <;> cases hholds
  · intro hran
    obtain ⟨j, retc, hj, rfl⟩ := hjob hran
    obtain ⟨len, hlen, hj'⟩ := jobOf_eq_ok hlt
    rw [hj, Except.ok.injEq] at hj'
    subst hj'
    exact ⟨_, len, rfl, hlen, rfl, rfl⟩
  · rintro (rfl | rfl | rfl | rfl)
    · cases hholds
    · cases hholds
    · exact hnojob rfl
    · exact hnojob rfl

theorem eq_of_empty (hoptions : c.options = o) (hsession : c.session = none)
    (hinput : c.input = none) (houtput : c.output = none) :
    c = ⟨o, c.stage, c.params, none, none, none, c.job⟩ := by
  cases c
  simp only at hoptions hsession hinput houtput
  rw [hoptions, hsession, hinput, houtput]

/-- A client that holds no buffer and no session keeps the invariant. -/
theorem Invariant.of_empty {stage : Stage} {job : Option Job}
    (hc : c = ⟨o, stage, params, none, none, none, job⟩) (hinput : stage.holdsInput = false)
    (hjob : stage = .unconfigured → job = none) : Invariant o c := by
  subst hc
  obtain ⟨houtput, hsession, hran⟩ := Stage.holds_eq_false hinput
  refine
    { options := rfl
      session_iff := by simp [hsession]
      no_buffer := fun _ => ⟨rfl, rfl⟩
      input_iff := by simp [hinput]
      source := fun b hb => by cases hb
      output_iff := by simp [houtput]
      target := fun b hb => by cases hb
      apart := fun b b' hb => by cases hb
      size_lt := fun h => by cases houtput.symm.trans h
      job := fun h => by cases hran.symm.trans h
      no_job := ?_ }
  rintro (rfl | rfl | rfl | rfl)
  · exact hjob rfl
  · cases hinput
  · cases hinput
  · cases hinput

/-- The input of a client may be staged before the output is. -/
theorem Invariant.of_stagedInput (h : StagedInput o input params)
    (hc : c = ⟨o, .inputStaged, params, input, none, none, none⟩) : Invariant o c := by
  subst hc
  obtain ⟨hiff, hsource⟩ := h.source
  exact
    { options := rfl
      session_iff := by simp [Stage.holdsSession]
      no_buffer := by rintro (hstage | hstage | hstage) <;> cases hstage
      input_iff := by simp [hiff, Stage.holdsInput]
      source := hsource
      output_iff := by simp [Stage.holdsOutput]
      target := fun b hb => by cases hb
      apart := fun b b' _ hb' => by cases hb'
      size_lt := fun hlate => by cases hlate
      job := fun hran => by cases hran
      no_job := fun _ => rfl }

/-- **The invariant holds of every client that can be reached**, whatever it is asked, whatever the
cards answer, and whatever happens to the machine in between. -/
theorem reachable_invariant (h : Reachable o c m) : Invariant o c := by
  obtain ⟨hphase, others, hheld⟩ := h.holding
  have hapart : ∀ b b', c.input = some b → c.output = some b' → Apart b b' :=
    fun b b' hb hb' => apart_of_holding hheld hb hb'
  rw [Phase] at hphase
  -- The phase of each stage is the client in full; what holds of it can be read off.
  cases hstage : c.stage with
  | unconfigured =>
      simp only [hstage] at hphase
      exact Invariant.of_empty hphase rfl fun _ => rfl
  | inputStaged =>
      simp only [hstage] at hphase
      obtain ⟨input, params, hin, hc⟩ := hphase
      exact Invariant.of_stagedInput hin hc
  | staged =>
      simp only [hstage] at hphase
      obtain ⟨input, output, params, hst, hc⟩ := hphase
      exact Invariant.of_staged hst hc rfl rfl (fun h => by cases h) (fun _ => rfl) hapart
  | sessionOpen =>
      simp only [hstage] at hphase
      obtain ⟨input, output, params, session, hst, -, hc⟩ := hphase
      exact Invariant.of_staged hst hc rfl rfl (fun h => by cases h) (fun _ => rfl) hapart
  | executed | verified | skipped =>
      simp only [hstage] at hphase
      obtain ⟨input, output, params, session, job, retc, hst, -, hjob, hc⟩ := hphase
      exact Invariant.of_staged hst hc rfl rfl (fun _ => ⟨job, retc, hjob, rfl⟩)
        (fun h => by cases h) hapart
  | tornDown | failed =>
      simp only [hstage] at hphase
      obtain ⟨hoptions, hsession, hinput, houtput⟩ := hphase
      have hc := eq_of_empty hoptions hsession hinput houtput
      rw [hstage] at hc
      exact Invariant.of_empty hc rfl fun h => by cases h

/-- A client of the program whose job was executed. -/
theorem reachable_invariant_executed :
    let files : FileTree := { entries := [([[97]], .file (.ofList [65, 98]))], workDir := [] }
    let o : Options := { Options.standard Device.software with
      input := some ⟨[97]⟩, output := some ⟨[98]⟩, verify := true }
    let after := afterCalls (Program.platform .slots 0)
      [.step .stageInput, .step .stageOutput, .step .acquireSession, .step .execute] (fresh o)
      (Program.start files)
    Reachable o after.1 after.2 ∧ after.1.stage = .executed ∧ after.1.session.isSome = true ∧
      ∃ b b', after.1.input = some b ∧ after.1.output = some b' ∧ Apart b b' ∧
        b'.size = b.size + 1024 := by
  intro files o after
  have hreachable : Reachable o after.1 after.2 :=
    reachable_afterCalls Allocator.sound_slots (.fresh HostMemory.sound_empty) _
  have hstage : after.1.stage = .executed := by decide +kernel
  have hinv := reachable_invariant hreachable
  have hsession := hinv.session_iff.2 (by rw [hstage]; rfl)
  have hinput := hinv.input_iff.2 ⟨rfl, by rw [hstage]; rfl⟩
  have houtput := hinv.output_iff.2 ⟨Or.inl rfl, by rw [hstage]; rfl⟩
  obtain ⟨b, hb⟩ := Option.isSome_iff_exists.1 hinput
  obtain ⟨b', hb'⟩ := Option.isSome_iff_exists.1 houtput
  obtain ⟨hsize, -⟩ := hinv.source b hb
  obtain ⟨hroom, -⟩ := hinv.target b' hb'
  exact ⟨hreachable, hstage, hsession, b, b', hb, hb', hinv.apart b b' hb hb', hsize ▸ hroom⟩

end Client

end Offload
