/-
**A whole run on the software backend.**

Everything comes together here: staging, the session and its job, the output file, the return code
and the comparison.  Whether a run succeeds can be told from its options and the files alone, and so
can what it answers and what it writes.

Main definitions:

* `FileTree.Writable` — can so many bytes be written to a path?
* `Options.Feasible` — when a run succeeds;
* `Options.outcome`, `Options.Written` — what it finds, and what becomes of the files.

Main results:

* `Options.feasible_iff` — **a run is feasible exactly if each of its steps is**;
* `Software.finish_ready` — what follows staging;
* `Software.run_characterised` — **a run succeeds exactly if it is feasible, and then its return
  code, its verification and its output file are determined**.
-/

import Offload.Proofs.Software.Transfer
import Offload.Proofs.Verification
import Offload.Program

set_option relaxedAutoImplicit false
set_option autoImplicit false

namespace Offload

/-- Can so many bytes be written to a path? -/
def FileTree.Writable (path : Path) (len : Nat) (t : FileTree) : Prop :=
  ∃ (d : Bytes) (t' : FileTree), d.size = len ∧ t.write path d = .ok t'

namespace Options

variable {o : Options} {t : FileTree}

/-- The output file, if there is to be one, can be written. -/
def OutputWritable (o : Options) (t : FileTree) : Prop :=
  ∀ path, o.output = some path → t.Writable path (o.dataLength t)

/-- **When a run succeeds.** -/
structure Feasible (o : Options) (t : FileTree) : Prop where
  /-- The input file, if there is to be one, is a regular file that may be read. -/
  input : ∀ path, o.input = some path → (t.fileAt? path).isSome = true ∧ t.Readable path
  /-- The size of the data fits a job. -/
  size_lt : o.dataLength t < UInt32.size
  /-- There is something in the input file, and in an output buffer that has no guard. -/
  size_pos : o.input.isSome = true ∨ (o.stagesOutput = true ∧ o.verify = false) →
    0 < o.dataLength t
  source : o.SourceFits (o.dataLength t)
  target : o.TargetFits (o.dataLength t)
  output : o.OutputWritable t

/-- An output buffer without a guard needs data, and one with a guard does not. -/
theorem size_pos_iff (o : Options) (n : Nat) :
    (o.stagesOutput = true → 0 < n + o.guardLength) ↔
      (o.stagesOutput = true ∧ o.verify = false → 0 < n) := by
  rw [guardLength]
  cases o.verify <;> simp

/-- **A run is feasible exactly if each of its steps is.** -/
theorem feasible_iff (o : Options) (t : FileTree) :
    o.Feasible t ↔ o.InputFits t ∧ o.OutputFits t ∧ o.JobFits t ∧ o.OutputWritable t := by
  constructor
  · intro h
    refine ⟨?_, ⟨h.size_lt, ?_⟩, ⟨h.source, h.target⟩, h.output⟩
    · intro path hpath
      obtain ⟨hregular, hmay⟩ := h.input path hpath
      exact ⟨hregular, hmay, h.size_pos (Or.inl (hpath ▸ rfl)), h.size_lt⟩
    · exact (size_pos_iff o _).2 fun hstages => h.size_pos (Or.inr hstages)
  · rintro ⟨hinput, ⟨hlt, houtput⟩, ⟨hsource, htarget⟩, hwritable⟩
    refine ⟨fun path hpath => ?_, hlt, ?_, hsource, htarget, hwritable⟩
    · obtain ⟨hregular, hmay, -⟩ := hinput path hpath
      exact ⟨hregular, hmay⟩
    rintro (hsome | hstages)
    · obtain ⟨path, hpath⟩ := Option.isSome_iff_exists.1 hsome
      obtain ⟨-, -, hpos, -⟩ := hinput path hpath
      exact hpos
    · exact (size_pos_iff o _).1 houtput hstages

/-- What a run finds that succeeds: it compares if it is asked to and both buffers are staged. -/
def outcome (o : Options) (t : FileTree) : Verification :=
  if o.verify && o.input.isSome && o.stagesOutput then .ofData (o.data t) else .skipped

/-- What a run that succeeds does to the files: the output file, if there is to be one, holds the
data in upper case, and nothing else is changed. -/
def Written (o : Options) (t t' : FileTree) : Prop :=
  match o.output with
  | none => t' = t
  | some path => ∃ d : Bytes, d.toList = (o.data t).map upperByte ∧ t.write path d = .ok t'

end Options

namespace Software

open Client (Ready Staged fresh afterCalls)

variable {p : Platform Cards} {o : Options} {c : Client Cards} {start m m' : Machine Cards}
  {b : HostBuffer}

/-! ### After the job -/

theorem Executed.staged (h : Executed o start c m) : Staged o c.input c.output c.params := by
  obtain ⟨input, output, params, session, job, retc, hst, -, -, hc⟩ := h.phase.executed h.stage
  rw [hc]
  exact hst

/-- Where there is an output file there is an output buffer. -/
theorem Executed.exists_output {path : Path} (h : Executed o start c m)
    (hpath : o.output = some path) : ∃ b, c.output = some b := by
  have hstages : o.stagesOutput = true := by simp [Options.stagesOutput, hpath]
  rcases h.staged.target with ⟨b, hb, -⟩ | ⟨-, hunstaged, -⟩
  · exact ⟨b, hb⟩
  · cases hstages.symm.trans hunstaged

/-- The part of the output buffer before the guard is the data in upper case. -/
theorem Executed.toList_output (h : Executed o start c m) (hfits : o.JobFits start.files)
    (hb : c.output = some b) :
    ((m.contents b).take c.params.size).toList = (o.data start.files).map upperByte := by
  obtain ⟨d, hd, hdata⟩ := h.result hfits b hb
  have hlength : ((o.data start.files).map upperByte).length = c.params.size := by
    rw [List.length_map, o.length_data, h.size]
  rw [Machine.contents, hd, Option.getD_some, Bytes.toList_take, hdata, ← hlength,
    List.take_left]

/-- **Writing the output**: the file holds the data in upper case, if the job could be done and the
file can be written. -/
theorem writeOutput_executed (h : Executed o start c m) :
    (∃ m', c.writeOutput m = (.ok (), c, m') ∧ m'.memory = m.memory ∧
        (o.JobFits start.files →
          o.OutputWritable start.files ∧ o.Written start.files m'.files)) ∨
      ∃ e c' m', c.writeOutput m = (.error e, c', m') ∧
        ¬(o.JobFits start.files ∧ o.OutputWritable start.files) := by
  cases hpath : o.output with
  | none =>
      have hnothing : c.writeOutput m = (.ok (), c, m) := by
        rw [Client.writeOutput, Client.inStage, if_pos (by exact h.stage), h.phase.options, hpath]
      refine Or.inl ⟨m, hnothing, rfl, fun _ => ⟨?_, ?_⟩⟩
      · intro path hsome
        cases hpath.symm.trans hsome
      · rw [Options.Written, hpath]
        exact h.files
  | some path =>
      obtain ⟨b, hb⟩ := h.exists_output hpath
      have hupper : o.JobFits start.files →
          ((m.contents b).take c.params.size).toList = (o.data start.files).map upperByte :=
        fun hfits => h.toList_output hfits hb
      -- Whether a write succeeds depends on the number of bytes only, and that is known.
      rcases Client.writeOutput_cases h.stage (h.phase.options.symm ▸ hpath) hb m with
        ⟨files, m', hwrite, hdone, hm'⟩ | ⟨cause, m', hwrite, hfailed, hm'⟩ <;>
        rw [h.files] at hwrite
      · refine Or.inl ⟨m', hdone, hm'.memory, fun hfits => ⟨?_, ?_⟩⟩
        · intro path' hpath'
          cases hpath.symm.trans hpath'
          exact ⟨_, files, o.size_upper (hupper hfits), hwrite⟩
        · rw [Options.Written, hpath, hm'.files]
          exact ⟨_, hupper hfits, hwrite⟩
      · refine Or.inr ⟨_, _, _, hfailed, ?_⟩
        rintro ⟨hfits, hwritable⟩
        obtain ⟨e, t', he, hok⟩ := hwritable path hpath
        have hsize : e.size = ((m.contents b).take c.params.size).size :=
          he.trans (o.size_upper (hupper hfits)).symm
        obtain ⟨t'', hok'⟩ := FileTree.write_of_size_eq hsize hok
        cases hwrite.symm.trans hok'

/-- **Checking the return code**: it is that of success exactly if the job could be done. -/
theorem checkReturnCode_executed (h : Executed o start c m) (m' : Machine Cards) :
    (c.checkReturnCode m' = (.ok Job.success, c, m') ∧ o.JobFits start.files) ∨
      ∃ e c' m'', c.checkReturnCode m' = (.error e, c', m'') ∧ ¬o.JobFits start.files := by
  obtain ⟨job, hjob, hretc⟩ := h.retc
  rw [Client.checkReturnCode, Client.inStage, if_pos (by exact h.stage)]
  simp only [hjob]
  by_cases hsuccess : job.retc = Job.success
  · have hsucceeded : job.succeeded = true := beq_iff_eq.2 hsuccess
    rw [if_pos hsucceeded, hsuccess]
    exact Or.inl ⟨rfl, hretc.1 hsuccess⟩
  · have hfailed : ¬job.succeeded = true := mt beq_iff_eq.1 hsuccess
    rw [if_neg hfailed]
    exact Or.inr ⟨_, _, _, rfl, mt hretc.2 hsuccess⟩

/-- The buffers compare as the data does with its upper case. -/
theorem Executed.compare {b' : HostBuffer} (h : Executed o start c m)
    (hfits : o.JobFits start.files) (hb : c.input = some b) (hb' : c.output = some b') :
    Verification.compare (m.contents b).toList (m.contents b').toList =
      Verification.ofData (o.data start.files) := by
  obtain ⟨d, hd, hdata⟩ := h.data hfits b hb
  obtain ⟨d', hd', hdata'⟩ := h.result hfits b' hb'
  rw [Machine.contents, Machine.contents, hd, hd', Option.getD_some, Option.getD_some, hdata,
    hdata', Verification.compare_upper]

/-- **Comparing**: what is found is determined by the data. -/
theorem verify_executed (h : Executed o start c m) (hmem : m'.memory = m.memory)
    (hfits : o.JobFits start.files) :
    ∃ c' m'', c.verify m' = (.ok (o.outcome start.files), c', m'') ∧ m''.files = m'.files := by
  have hcontents : ∀ b, m'.contents b = m.contents b := fun b => by
    rw [Machine.contents, hmem, Machine.contents]
  rw [Client.verify, Client.inStage, if_pos (by exact h.stage), h.phase.options]
  cases hverify : o.verify with
  | false =>
      have houtcome : o.outcome start.files = .skipped := by simp [Options.outcome, hverify]
      rw [houtcome]
      exact ⟨_, _, rfl, rfl⟩
  | true =>
      rw [if_pos rfl]
      rcases h.staged.source with ⟨b, hb, hinput, hin, -⟩ | ⟨hb, hnone, -⟩
      · rcases h.staged.target with ⟨b', hb', hstages, hout, -⟩ | ⟨hb', hstages, -⟩
        · have houtcome : o.outcome start.files = .ofData (o.data start.files) := by
            simp [Options.outcome, hverify, hinput, hstages]
          simp only [hin, hout, hb, hb', hcontents, h.compare hfits hb hb', houtcome]
          refine ⟨_, _, rfl, ?_⟩
          split <;> rfl
        · have houtcome : o.outcome start.files = .skipped := by
            simp [Options.outcome, hstages]
          rw [houtcome]
          split
          · next hsome => cases hb'.symm.trans hsome
          · exact ⟨_, _, rfl, rfl⟩
      · have houtcome : o.outcome start.files = .skipped := by
          simp [Options.outcome, hnone]
        rw [houtcome]
        split
        · next hsome _ => cases hb.symm.trans hsome
        · exact ⟨_, _, rfl, rfl⟩

/-! ### The whole run -/

/-- **What follows staging** comes to a report exactly if the job could be done and the output file
can be written. -/
theorem finish_ready (hp : Registered p) (ho : o.backend = Device.software)
    (h : Ready o start c m) (hclear : Clear o m.memory) :
    (∃ c' m', c.finish p m = (.ok ⟨Job.success, o.outcome start.files⟩, c', m') ∧
        (o.JobFits start.files ∧ o.OutputWritable start.files) ∧
        o.Written start.files m'.files) ∨
      ∃ e c' m', c.finish p m = (.error e, c', m') ∧
        ¬(o.JobFits start.files ∧ o.OutputWritable start.files) := by
  obtain ⟨c₁, m₁, c₂, m₂, hacquire, hexecute, hdone⟩ := execute_ready hp ho h hclear
  rw [Client.finish, hacquire]
  simp only [Turn.andThen, hexecute]
  rcases writeOutput_executed hdone with ⟨m₃, hwrite, hmem, hwritten⟩ | ⟨e, c₃, m₃, hwrite, hnot⟩
  · simp only [hwrite]
    rcases checkReturnCode_executed hdone m₃ with ⟨hcheck, hfits⟩ | ⟨e, c₄, m₄, hcheck, hnot⟩
    · obtain ⟨c₄, m₄, hverify, hfiles⟩ := verify_executed hdone hmem hfits
      simp only [hcheck, hverify]
      obtain ⟨hwritable, hafter⟩ := hwritten hfits
      exact Or.inl ⟨c₄, m₄, rfl, ⟨hfits, hwritable⟩, hfiles ▸ hafter⟩
    · simp only [hcheck]
      exact Or.inr ⟨e, c₄, m₄, rfl, fun hboth => hnot hboth.1⟩
  · simp only [hwrite]
    exact Or.inr ⟨e, c₃, m₃, rfl, hnot⟩

/-- A run comes to a report that is determined by options and files if it is feasible, and to an
error if it is not. -/
theorem run_cases (hA : p.allocator.Sound) (hp : Registered p) (ho : o.backend = Device.software)
    (hm : m.memory.Sound)
    (hserves : p.allocator.Serves 2 m.memory.granted m.memory.live)
    (hclear : Clear o
      (afterCalls p [.step .stageInput, .step .stageOutput] (fresh o) m).2.memory) :
    (∃ m', (fresh o).run p m = (.ok ⟨Job.success, o.outcome m.files⟩, m') ∧ o.Feasible m.files ∧
        o.Written m.files m'.files) ∨
      ∃ e m', (fresh o).run p m = (.error e, m') ∧ ¬o.Feasible m.files := by
  rw [Client.run, Client.runSteps]
  rcases Client.stageInput_cases hA hm hserves o with
    ⟨c₁, m₁, hinput, hin, hready⟩ | ⟨e, c₁, m₁, hinput, hnot⟩
  · rcases Client.stageOutput_cases hA hready with
      ⟨c₂, m₂, houtput, hout, hready⟩ | ⟨e, c₂, m₂, houtput, hnot⟩
    · have hafter : afterCalls p [.step .stageInput, .step .stageOutput] (fresh o) m =
          (c₂, m₂) := by
        simp [Client.afterCalls_cons, Client.answer, Client.answerStep, Turn.map, hinput, houtput]
      rw [hafter] at hclear
      simp only [hinput, houtput, Turn.andThen, Client.complete]
      rcases finish_ready hp ho hready hclear with
        ⟨c₃, m₃, hfinish, ⟨hfits, hwritable⟩, hwritten⟩ | ⟨e, c₃, m₃, hfinish, hnot⟩
      · simp only [hfinish]
        refine Or.inl ⟨_, rfl, (o.feasible_iff m.files).2 ⟨hin, hout, hfits, hwritable⟩, ?_⟩
        -- The client is torn down when all is done, and once more when it is dropped.
        rw [Client.drop, Client.files_teardown, Client.files_teardown]
        exact hwritten
      · simp only [hfinish]
        refine Or.inr ⟨e, _, rfl, fun hfeasible => hnot ?_⟩
        obtain ⟨-, -, hboth⟩ := (o.feasible_iff m.files).1 hfeasible
        exact hboth
    · simp only [hinput, houtput, Turn.andThen]
      exact Or.inr ⟨e, _, rfl, fun hfeasible => hnot ((o.feasible_iff m.files).1 hfeasible).2.1⟩
  · simp only [hinput, Turn.andThen]
    exact Or.inr ⟨e, _, rfl, fun hfeasible => hnot ((o.feasible_iff m.files).1 hfeasible).1⟩

/-- **A run succeeds exactly if it is feasible, and then everything that it comes to is
determined**: the return code is that of success, what is found when output and input are compared
follows from the data, and so does what is written to the output file.  This holds wherever the
allocator serves what a run needs, and no address that the job uses as it was given lies inside a
buffer that is live when the job is done, or at the end of one. -/
theorem run_characterised (hA : p.allocator.Sound) (hp : Registered p)
    (ho : o.backend = Device.software) (hm : m.memory.Sound)
    (hserves : p.allocator.Serves 2 m.memory.granted m.memory.live)
    (hclear : Clear o
      (afterCalls p [.step .stageInput, .step .stageOutput] (fresh o) m).2.memory) :
    let run := (fresh o).run p m
    ((∃ report, run.1 = .ok report) ↔ o.Feasible m.files) ∧
      ∀ report, run.1 = .ok report → report.retc = Job.success ∧
        report.verification = o.outcome m.files ∧ o.Written m.files run.2.files := by
  intro run
  rcases run_cases hA hp ho hm hserves hclear with
    ⟨m', hok, hfeasible, hwritten⟩ | ⟨e, m', herror, hnot⟩
  · have hrun : run = (.ok ⟨Job.success, o.outcome m.files⟩, m') := hok
    rw [hrun]
    refine ⟨iff_of_true ⟨_, rfl⟩ hfeasible, ?_⟩
    intro report hreport
    cases hreport
    exact ⟨rfl, rfl, hwritten⟩
  · have hrun : run = (.error e, m') := herror
    rw [hrun]
    refine ⟨iff_of_false ?_ hnot, ?_⟩
    · rintro ⟨report, hreport⟩
      cases hreport
    · intro report hreport
      cases hreport

/-- A run of the program on a file whose second letter is the first one in lower case; and on the
same file where it may not be read. -/
theorem run_characterised_file :
    let files : FileTree := { entries := [([[97]], .file (.ofList [65, 98]))], workDir := [] }
    let shut := files.restrict [[97]] { Access.full with read := false }
    let o : Options := { Options.standard Device.software with
      input := some ⟨[97]⟩, output := some ⟨[98]⟩, verify := true }
    let run := (fresh o).run (Program.platform .slots 0) (Program.start files)
    ((∃ report, run.1 = .ok report ∧ report.retc = 0x102 ∧
        report.verification = .mismatch (some 1) false) ∧
      (run.2.files.fileAt? ⟨[98]⟩).map Bytes.toList = some [65, 66]) ∧
      ¬∃ report,
        ((fresh o).run (Program.platform .slots 0) (Program.start shut)).1 = .ok report := by
  intro files shut o
  have hfile : files.fileAt? ⟨[97]⟩ = some (.ofList [65, 98]) := rfl
  have hfeasible : o.Feasible files := by
    have hlength : o.dataLength files = 2 := Options.dataLength_of_file rfl hfile
    refine ⟨?_, hlength ▸ by decide, fun _ => hlength ▸ by decide, Or.inl rfl, Or.inl rfl, ?_⟩
    · intro path hpath
      cases hpath
      exact ⟨hfile ▸ rfl, _, _, rfl, rfl⟩
    · intro path hpath
      cases hpath
      exact ⟨.zeros 2, _, hlength.symm, rfl⟩
  have hshut : ¬o.Feasible shut := by
    intro h
    obtain ⟨-, hmay⟩ := h.input _ rfl
    have hresolve : shut.resolve false ⟨[97]⟩ = .ok ⟨[[97]], some (.file (.ofList [65, 98]))⟩ := rfl
    exact Bool.false_ne_true ((FileTree.readable_iff hresolve).1 hmay)
  have hrun := fun t : FileTree => run_characterised (p := Program.platform .slots 0) (o := o)
    (m := Program.start t) Allocator.sound_slots ⟨_, rfl, rfl⟩ rfl HostMemory.sound_empty
    Allocator.serves_slots (fun addr haddr => by cases haddr)
  obtain ⟨hiff, hreport⟩ := hrun files
  obtain ⟨report, hok⟩ := hiff.2 hfeasible
  obtain ⟨hretc, houtcome, d, hd, hwritten⟩ := hreport report hok
  have hfound : o.outcome files = .mismatch (some 1) false := rfl
  refine ⟨⟨⟨report, hok, hretc, houtcome.trans hfound⟩, ?_⟩, mt (hrun shut).1.1 hshut⟩
  have hput : files.write ⟨[98]⟩ d = .ok (files.put [[98]] (.file d)) := rfl
  have hread : (files.put [[98]] (.file d)).fileAt? ⟨[98]⟩ = some d := rfl
  have hfinal := Except.ok.inj (hput.symm.trans hwritten)
  rw [← hfinal, hread, Option.map_some, hd]
  rfl

end Software

end Offload
