/-
**Options that make no difference.**

Some options are overridden: an input file decides where the data is and how much there is of it,
and an output file decides where the result goes.  Others only say how the job is run: on which
card, for how long at most, and whether its end is waited for or polled.  Neither kind can be told
from what a run in software comes to.  Two runs of the same task are compared step by step; while
they stage their buffers they are on the same machine, and from then on memory and files stay the
same although the cards need not.

Main definitions:

* `Options.SameTask` — the options differ in nothing that decides a run;
* `Turn.Alike` — two turns come to the same;
* `Client.HalfAlike`, `Client.Alike` — two clients are at the same point of the same task.

Main results:

* `Turn.Alike.andThen` — turns that come to the same go on alike;
* `Client.stageInput_alike`, `Client.stageOutput_alike`, `Software.acquireSession_alike`,
  `Software.execute_alike`, `Client.conclude_alike` — so does every step of a run;
* `Software.run_of_sameTask` — **options that are overridden or incidental cannot influence a run**.
-/

import Offload.Program
import Offload.Proofs.Client.Relay
import Offload.Proofs.Software.Transfer

set_option relaxedAutoImplicit false
set_option autoImplicit false

namespace Offload

variable {σ α β : Type}

/-! ### The same task -/

/-- The options differ in nothing that decides a run: what an input file overrides may differ if
there is one, likewise for an output file, and card, timeout and interrupt may differ in any
case. -/
structure Options.SameTask (o o' : Options) : Prop where
  input : o'.input = o.input
  output : o'.output = o.output
  source : o.input = none →
    o'.size = o.size ∧ o'.sourceSpace = o.sourceSpace ∧ o'.sourceAddr = o.sourceAddr
  target : o.output = none → o'.targetSpace = o.targetSpace ∧ o'.targetAddr = o.targetAddr
  verify : o'.verify = o.verify
  backend : o'.backend = o.backend

variable {o o' : Options}

theorem Options.SameTask.guardLength_eq (h : o.SameTask o') : o'.guardLength = o.guardLength := by
  rw [guardLength, guardLength, h.verify]

/-- Both tasks stage their output or none does. -/
theorem Options.SameTask.stagesOutput_eq (h : o.SameTask o') :
    o'.stagesOutput = o.stagesOutput := by
  rw [stagesOutput, stagesOutput, h.output]
  cases houtput : o.output with
  | none =>
      obtain ⟨hspace, haddr⟩ := h.target houtput
      rw [hspace, haddr]
  | some path => rfl

/-! ### Turns that come to the same -/

/-- Two turns come to the same: both succeed with the same value and leave what is related, or both
fail with the same error and leave the same files. -/
inductive Turn.Alike (R : Client σ → Machine σ → Client σ → Machine σ → Prop) :
    Turn σ α → Turn σ α → Prop
  | ok {a : α} {c c' : Client σ} {m m' : Machine σ} (h : R c m c' m') :
      Alike R (.ok a, c, m) (.ok a, c', m')
  | error {e : Error} {c c' : Client σ} {m m' : Machine σ} (hstage : c.stage = .failed)
      (hstage' : c'.stage = .failed) (hfiles : m'.files = m.files) :
      Alike R (.error e, c, m) (.error e, c', m')

variable {R S : Client σ → Machine σ → Client σ → Machine σ → Prop}

/-- Turns that come to the same go on alike. -/
theorem Turn.Alike.andThen {t t' : Turn σ α} {f : α → Client σ → Machine σ → Turn σ β}
    (h : Alike R t t')
    (hf : ∀ a c m c' m', R c m c' m' → Alike S (f a c m) (f a c' m')) :
    Alike S (t.andThen f) (t'.andThen f) := by
  cases h with
  | ok h => exact hf _ _ _ _ _ h
  | error hstage hstage' hfiles => exact error hstage hstage' hfiles

namespace Client

variable {p : Platform σ} {c c' : Client σ} {m m' : Machine σ}

theorem files_teardown_alike (hfiles : m'.files = m.files) :
    (c'.teardown m').2.files = (c.teardown m).2.files := by
  rw [files_teardown, files_teardown, hfiles]

theorem alike_fail (e : Error) (hfiles : m'.files = m.files) :
    Turn.Alike R (c.fail e m : Turn σ α) (c'.fail e m') :=
  .error (stage_fail (α := α) e c m) (stage_fail (α := α) e c' m') (files_teardown_alike hfiles)

/-! ### Staging -/

/-- Two clients whose input is staged, on the same machine: they differ only in their options and in
where the result is to go. -/
structure HalfAlike (o o' : Options) (c : Client σ) (m : Machine σ) (c' : Client σ)
    (m' : Machine σ) : Prop where
  stage : c.stage = .inputStaged
  stage' : c'.stage = .inputStaged
  options : c.options = o
  options' : c'.options = o'
  target : c.params.spaceOut = o.targetSpace ∧ c.params.addrOut = o.targetAddr.getD 0
  params : c'.params =
    { c.params with spaceOut := o'.targetSpace, addrOut := o'.targetAddr.getD 0 }
  input : c'.input = c.input
  output : c'.output = c.output
  job : c'.job = c.job
  machine : m' = m

/-- Two clients at the same point of the same task, once the output is staged: they differ only in
their options, which make no difference any more, and in their sessions. -/
structure Alike (o o' : Options) (s : Stage) (c : Client σ) (m : Machine σ) (c' : Client σ)
    (m' : Machine σ) : Prop where
  stage : c.stage = s
  stage' : c'.stage = s
  options : c.options = o
  options' : c'.options = o'
  params : c'.params = c.params
  input : c'.input = c.input
  output : c'.output = c.output
  job : c'.job = c.job
  memory : m'.memory = m.memory
  files : m'.files = m.files

theorem stageInput_alike (h : o.SameTask o') (p : Platform σ) (m : Machine σ) :
    Turn.Alike (HalfAlike o o') ((fresh o).stageInput p m) ((fresh o').stageInput p m) := by
  have hinput : (fresh o' : Client σ).options.input = (fresh o : Client σ).options.input := h.input
  rw [stageInput, stageInput, inStage_eq _ rfl, inStage_eq _ rfl, hinput]
  cases hin : (fresh o : Client σ).options.input with
  | none =>
      obtain ⟨hsize, hspace, haddr⟩ := h.source hin
      refine .ok ⟨rfl, rfl, rfl, rfl, ⟨rfl, rfl⟩, ?_, rfl, rfl, rfl, rfl⟩
      simp only [fresh, Parameters.ofOptions, h.input, h.output, hsize, hspace, haddr]
  | some path =>
      simp only
      rcases loadFile p path m with ⟨e | b, m₁⟩
      · exact alike_fail e rfl
      · refine .ok ⟨rfl, rfl, rfl, rfl, ⟨rfl, rfl⟩, ?_, rfl, rfl, rfl, rfl⟩
        simp only [fresh, Parameters.ofOptions, h.input, h.output]

theorem stageOutput_alike (h : o.SameTask o') (hhalf : HalfAlike o o' c m c' m') :
    Turn.Alike (Alike o o' .staged) (c.stageOutput p m) (c'.stageOutput p m') := by
  obtain ⟨hstage, hstage', rfl, hoptions', ⟨hspace, haddr⟩, hparams, hinput, houtput, hjob, rfl⟩ :=
    hhalf
  have hsize : c'.params.size = c.params.size := by rw [hparams]
  rw [stageOutput, stageOutput, inStage_eq _ hstage, inStage_eq _ hstage', hsize, hoptions',
    h.guardLength_eq, h.stagesOutput_eq]
  cases descriptorLength c.params.size with
  | none => exact alike_fail _ rfl
  | some _ =>
      simp only
      split
      · rcases outputBuffer p c.params.size c.options.guardLength m' with ⟨e | b, m₁⟩
        · exact alike_fail e rfl
        · refine .ok ⟨rfl, rfl, rfl, rfl, ?_, hinput, rfl, hjob, rfl, rfl⟩
          simp only [hparams]
      · next hunstaged =>
          -- Without an output buffer there is no output file, and nothing is overridden.
          have hnone : c.options.output = none := by
            rw [Options.stagesOutput, Bool.or_eq_true, not_or, Option.not_isSome_iff_eq_none]
              at hunstaged
            exact hunstaged.1
          obtain ⟨hspace', haddr'⟩ := h.target hnone
          refine .ok ⟨rfl, rfl, rfl, rfl, ?_, hinput, houtput, hjob, rfl, rfl⟩
          simp only [hparams, hspace', haddr', ← hspace, ← haddr]

/-- A client that has failed refuses to stage its output. -/
theorem stage_stageOutput_failed (h : c.stage = .failed) (m : Machine σ) :
    (c.stageOutput p m).2.1.stage = .failed := by
  rw [stageOutput, inStage, if_neg (by rw [h]; decide)]
  exact h

/-- **Staging** comes to the same, also if it fails; and if not, so do the parameters of the job. -/
theorem staging_alike (ht : o.SameTask o') (p : Platform σ) (m : Machine σ) :
    let calls : List Call := [.step .stageInput, .step .stageOutput]
    let staged := (afterCalls p calls (fresh o) m).1
    let staged' := (afterCalls p calls (fresh o') m).1
    staged'.stage = staged.stage ∧ (staged.stage = .staged → staged'.params = staged.params) := by
  have hfailed {c c' : Client σ} (h : c.stage = .failed) (h' : c'.stage = .failed) :
      c'.stage = c.stage ∧ (c.stage = .staged → c'.params = c.params) := by
    refine ⟨h'.trans h.symm, fun hstaged => ?_⟩
    cases h.symm.trans hstaged
  simp only [afterCalls_cons, afterCalls_nil, answer, answerStep, Turn.map]
  have hinput := stageInput_alike ht p m
  generalize (fresh o).stageInput p m = t at hinput
  generalize (fresh o').stageInput p m = t' at hinput
  cases hinput with
  | @ok a c c' m m' h =>
      have houtput := stageOutput_alike (p := p) ht h
      generalize c.stageOutput p m = t at houtput
      generalize c'.stageOutput p m' = t' at houtput
      cases houtput with
      | ok h => exact ⟨h.stage'.trans h.stage.symm, fun _ => h.params⟩
      | error hstage hstage' _ => exact hfailed hstage hstage'
  | error hstage hstage' _ =>
      exact hfailed (stage_stageOutput_failed hstage _) (stage_stageOutput_failed hstage' _)

/-! ### After the job -/

theorem contents_alike {s : Stage} (h : Alike o o' s c m c' m') (b : HostBuffer) :
    m'.contents b = m.contents b := by
  rw [Machine.contents, Machine.contents, h.memory]

/-- Without an output file or without an output buffer nothing is written. -/
theorem writeOutput_nothing (hstage : c.stage = .executed)
    (h : c.options.output = none ∨ c.output = none) (m : Machine σ) :
    c.writeOutput m = (.ok (), c, m) := by
  rw [writeOutput, inStage_eq _ hstage]
  split
  · next hpath hb =>
      rcases h with h | h
      · cases h.symm.trans hpath
      · cases h.symm.trans hb
  · rfl

theorem writeOutput_alike (ht : o.SameTask o') (h : Alike o o' .executed c m c' m') :
    Turn.Alike (Alike o o' .executed) (c.writeOutput m) (c'.writeOutput m') := by
  have hpath : c'.options.output = c.options.output := by rw [h.options, h.options', ht.output]
  by_cases hnone : c.options.output = none ∨ c.output = none
  · have hnone' : c'.options.output = none ∨ c'.output = none := by rwa [hpath, h.output]
    rw [writeOutput_nothing h.stage hnone, writeOutput_nothing h.stage' hnone']
    exact .ok h
  · rw [not_or] at hnone
    obtain ⟨path, hp⟩ := Option.ne_none_iff_exists'.1 hnone.1
    obtain ⟨b, hb⟩ := Option.ne_none_iff_exists'.1 hnone.2
    have hcases := writeOutput_cases h.stage hp hb m
    have hcases' := writeOutput_cases h.stage' (hpath.trans hp) (h.output.trans hb) m'
    simp only [contents_alike h, h.params, h.files] at hcases'
    -- The same is written to the same files, so both writes succeed or both fail.
    rcases hcases with ⟨files, m₁, hwrite, heq, hm₁⟩ | ⟨cause, m₁, hwrite, heq, hm₁⟩ <;>
      rcases hcases' with ⟨files', m₂, hwrite', heq', hm₂⟩ | ⟨cause', m₂, hwrite', heq', hm₂⟩ <;>
      cases hwrite.symm.trans hwrite' <;> rw [heq, heq']
    · exact .ok { h with
        memory := hm₂.memory.trans (h.memory.trans hm₁.memory.symm)
        files := hm₂.files.trans hm₁.files.symm }
    · exact alike_fail _ (hm₂.files.trans (h.files.trans hm₁.files.symm))

theorem checkReturnCode_alike (h : Alike o o' .executed c m c' m') :
    Turn.Alike (Alike o o' .executed) (c.checkReturnCode m) (c'.checkReturnCode m') := by
  rw [checkReturnCode, checkReturnCode, inStage_eq _ h.stage, inStage_eq _ h.stage', h.job]
  cases c.job with
  | none => exact alike_fail _ h.files
  | some job =>
      simp only
      split
      · exact .ok h
      · exact alike_fail _ h.files

/-- The same files are left. -/
def SameFiles (_ : Client σ) (m : Machine σ) (_ : Client σ) (m' : Machine σ) : Prop :=
  m'.files = m.files

theorem verify_alike (ht : o.SameTask o') (h : Alike o o' .executed c m c' m') :
    Turn.Alike SameFiles (c.verify m) (c'.verify m') := by
  have hverify : c'.options.verify = c.options.verify := by rw [h.options, h.options', ht.verify]
  rw [verify, verify, inStage_eq _ h.stage, inStage_eq _ h.stage', hverify, h.params, h.input,
    h.output]
  split
  · split
    · simp only [contents_alike h]
      refine .ok ?_
      rw [SameFiles]
      split <;> exact h.files
    · exact .ok h.files
  · exact .ok h.files

/-- **What follows the job** comes to the same. -/
theorem conclude_alike (ht : o.SameTask o') (h : Alike o o' .executed c m c' m') :
    Turn.Alike SameFiles (c.conclude m) (c'.conclude m') :=
  (writeOutput_alike ht h).andThen fun _ _ _ _ _ h =>
  (checkReturnCode_alike h).andThen fun _ _ _ _ _ h =>
  (verify_alike ht h).andThen fun _ _ _ _ _ h => .ok h

end Client

/-! ### In software -/

namespace Software

open Client (Alike SameFiles fresh afterCalls alike_fail)

variable {p : Platform Cards} {c c' : Client Cards} {m m' : Machine Cards}

/-- Two clients at the same point of the same task, each on a card that nobody has written to. -/
structure OpenAlike (o o' : Options) (c : Client Cards) (m : Machine Cards) (c' : Client Cards)
    (m' : Machine Cards) : Prop extends Alike o o' .sessionOpen c m c' m' where
  fresh : ∃ s, c.session = some s ∧ Fresh s m.devices
  fresh' : ∃ s, c'.session = some s ∧ Fresh s m'.devices

/-- Whatever the number of the card, and however completion is waited for, **a session is opened on
a fresh card**. -/
theorem acquireSession_alike (hp : Registered p) (ho : o.backend = Device.software)
    (ht : o.SameTask o') (h : Alike o o' .staged c m c' m') :
    Turn.Alike (OpenAlike o o') (c.acquireSession p m) (c'.acquireSession p m') := by
  have hbackend : c.options.backend = Device.software := h.options ▸ ho
  have hbackend' : c'.options.backend = Device.software := by rw [h.options', ht.backend, ho]
  obtain ⟨s, m₁, hacquire, hmem, hfiles, hfresh⟩ :=
    acquire_fresh hp c.options.card c.options.irq m
  obtain ⟨s', m₁', hacquire', hmem', hfiles', hfresh'⟩ :=
    acquire_fresh hp c'.options.card c'.options.irq m'
  rw [Client.acquireSession, Client.acquireSession, Client.inStage_eq _ h.stage,
    Client.inStage_eq _ h.stage', hbackend, hbackend', hacquire, hacquire']
  exact .ok
    { h with
      stage := rfl
      stage' := rfl
      memory := hmem'.trans (h.memory.trans hmem.symm)
      files := hfiles'.trans (h.files.trans hfiles.symm)
      fresh := ⟨s, rfl, hfresh⟩
      fresh' := ⟨s', rfl, hfresh'⟩ }

/-- Whatever time it is given, **the job does the same**: what it reads and writes is in host memory
or on a fresh card. -/
theorem execute_alike (h : OpenAlike o o' c m c' m') :
    Turn.Alike (Alike o o' .executed) (c.execute p m) (c'.execute p m') := by
  cases hjob : Client.jobOf c.params with
  | error e =>
      rw [Client.execute, Client.execute, Client.inStage_eq _ h.stage,
        Client.inStage_eq _ h.stage', h.params, hjob]
      exact alike_fail _ h.files
  | ok job =>
      obtain ⟨s, hs, hfresh⟩ := h.fresh
      obtain ⟨s', hs', hfresh'⟩ := h.fresh'
      obtain ⟨m₁, hexecute, hfiles, hmem⟩ := execute_fresh (p := p) h.stage hs hfresh hjob
      obtain ⟨m₁', hexecute', hfiles', hmem'⟩ :=
        execute_fresh (p := p) h.stage' hs' hfresh' (h.params.symm ▸ hjob)
      rw [hexecute, hexecute', h.memory]
      rw [h.memory] at hmem'
      exact .ok
        { h with
          stage := rfl
          stage' := rfl
          job := rfl
          memory := hmem'.trans hmem.symm
          files := hfiles'.trans (h.files.trans hfiles.symm) }

/-- **All that follows staging** comes to the same. -/
theorem complete_alike (hp : Registered p) (ho : o.backend = Device.software)
    (ht : o.SameTask o') (h : Alike o o' .staged c m c' m') :
    Turn.Alike SameFiles (c.complete p m) (c'.complete p m') := by
  have hfinish : Turn.Alike SameFiles (c.finish p m) (c'.finish p m') :=
    (acquireSession_alike hp ho ht h).andThen fun _ _ _ _ _ h =>
    (execute_alike h).andThen fun _ _ _ _ _ h => Client.conclude_alike ht h
  rw [Client.complete, Client.complete]
  generalize c.finish p m = t at hfinish
  generalize c'.finish p m' = t' at hfinish
  cases hfinish with
  | ok hfiles => exact .ok (Client.files_teardown_alike hfiles)
  | error hstage hstage' hfiles =>
      exact .error (if_pos hstage) (if_pos hstage') (Client.files_teardown_alike hfiles)

/-- **A whole run** comes to the same. -/
theorem runSteps_alike (hp : Registered p) (ho : o.backend = Device.software)
    (ht : o.SameTask o') (m : Machine Cards) :
    Turn.Alike SameFiles ((fresh o).runSteps p m) ((fresh o').runSteps p m) :=
  (Client.stageInput_alike ht p m).andThen fun _ _ _ _ _ h =>
  (Client.stageOutput_alike ht h).andThen fun _ _ _ _ _ h => complete_alike hp ho ht h

/-- **Options that are overridden or incidental cannot influence a run.**  On the same machine, two
runs of the same task have the same result and leave the same files, and their jobs have the same
parameters. -/
theorem run_of_sameTask (hp : Registered p) (ho : o.backend = Device.software)
    (ht : o.SameTask o') (m : Machine Cards) :
    let calls : List Client.Call := [.step .stageInput, .step .stageOutput]
    let staged := (afterCalls p calls (fresh o) m).1
    let staged' := (afterCalls p calls (fresh o') m).1
    ((fresh o').run p m).1 = ((fresh o).run p m).1 ∧
      ((fresh o').run p m).2.files = ((fresh o).run p m).2.files ∧
      staged'.stage = staged.stage ∧ (staged.stage = .staged → staged'.params = staged.params) := by
  intro calls staged staged'
  have hrun := runSteps_alike hp ho ht m
  rw [Client.run, Client.run]
  generalize (fresh o).runSteps p m = t at hrun
  generalize (fresh o').runSteps p m = t' at hrun
  refine (and_assoc.1 ⟨?_, Client.staging_alike ht p m⟩)
  cases hrun with
  | ok hfiles => exact ⟨rfl, Client.files_teardown_alike hfiles⟩
  | error _ _ hfiles => exact ⟨rfl, Client.files_teardown_alike hfiles⟩

/-- Sizes that no job could carry and addresses that do not exist, all of them overridden. -/
theorem run_of_sameTask_overridden :
    let files : FileTree := { entries := [([[97]], .file (.ofList [65, 98]))], workDir := [] }
    let p := Program.platform .slots 0
    let m := Program.start files
    let o : Options := { Options.standard Device.software with
      input := some ⟨[97]⟩, output := some ⟨[98]⟩, verify := true }
    let o' : Options := { o with
      card := 3, timeout := 0, irq := false, size := some 0xffffffffffffffff, sourceSpace := .nvme
      sourceAddr := some 1, targetSpace := .cardDram, targetAddr := some 0x10000000 }
    o.SameTask o' ∧ ((fresh o').run p m).1 = ((fresh o).run p m).1 ∧
      ((fresh o').run p m).2.files = ((fresh o).run p m).2.files ∧
      ((fresh o).run p m).1 = .ok ⟨0x102, .mismatch (some 1) false⟩ := by
  intro files p m o o'
  have ht : o.SameTask o' :=
    ⟨rfl, rfl, fun hinput => (by cases hinput), fun houtput => (by cases houtput), rfl, rfl⟩
  obtain ⟨hresult, hfiles, -⟩ := run_of_sameTask (p := p) ⟨_, rfl, rfl⟩ rfl ht m
  exact ⟨ht, hresult, hfiles, by decide +kernel⟩

end Software

end Offload
