/-
**A client without its addresses.**

A client that takes a file through the software backend answers its calls by what its input file
holds and by what stands at the place of its output file, and by nothing else: neither where its
buffers are nor what others do on the same machine makes a difference.  Here such a client is told
by an account, which has the contents of the buffers in place of their addresses, and answers calls
on its own.

Main definitions:

* `Task` — a job from one file to another, in software;
* `Account`, `Account.answer` — a client as it is seen without addresses, and what it answers;
* `Account.Sees`, `Account.Describes` — an account is that of a client on a machine.

Main results:

* `Account.Describes.of_spares` — **others may go on with what is theirs**;
* `Account.Sees.write_ok`, `Account.Sees.write_error` — what is written to the output file goes to
  its place;
* `Account.Sees.fileAt?_eq` — **two trees of one account have the same output file**.
-/

import Offload.Proofs.Client.Invariant
import Offload.Proofs.Client.Spares
import Offload.Proofs.Files.Resolution

set_option relaxedAutoImplicit false
set_option autoImplicit false

namespace Offload

open Client (Answer Phase)
open Machine (Holding Spares)

/-! ### Tasks and accounts -/

/-- A job from one file to another, in software. -/
structure Task where
  options : Options
  source : Path
  target : Path
  input_eq : options.input = some source
  output_eq : options.output = some target
  backend_eq : options.backend = Device.software

/-- What is asked of a client: a step, or that it lets go of everything. -/
inductive Task.Act where
  | step (step : Step)
  | teardown
  deriving DecidableEq, Repr

/-- The call of a client that is asked. -/
def Task.Act.call : Task.Act → Client.Call
  | .step which => .step which
  | .teardown => .teardown

/-- A client as it is seen without addresses: its stage, the size of its data, what its buffers
hold, the return code of its job, and what stands at the place of its output file. -/
structure Account where
  stage : Stage
  size : Nat
  input : Option Bytes
  output : Option Bytes
  retc : Option UInt32
  entry : Option Entry

namespace Account

/-- The account of a client that has done nothing yet, with what stands where its output file is to
be. -/
def fresh (o : Options) (e : Option Entry) : Account where
  stage := .unconfigured
  size := (Parameters.ofOptions o).size
  input := none
  output := none
  retc := none
  entry := e

/-- The account of a client that was torn down. -/
def release (s : Account) : Account :=
  { s with
    stage := if s.stage = .failed then .failed else .tornDown
    input := none
    output := none }

/-- The account of a client whose step has failed. -/
def fail (e : Error) (s : Account) : Except Error Answer × Account :=
  (.error e, ({ s with stage := .failed }).release)

/-- What the buffer of an input file holds when the file was loaded. -/
def load (path : Path) (t : FileTree) : Except Error Bytes :=
  match t.fileSize path with
  | .error cause => .error (.sizing path cause)
  | .ok len =>
    if UInt32.size ≤ len then .error (.argument (.oversized len))
    else if len = 0 then .error (.allocating len .empty)
    else
      match t.readExact path len with
      | .error cause => .error (.reading path cause)
      | .ok d => .ok ((Bytes.zeros len).overwrite 0 d)

/-- What a step that the stage allows comes to, by the files as they were at the start. -/
def advance (task : Task) (place : Location) (t : FileTree) (s : Account) :
    Step → Except Error Answer × Account
  | .stageInput =>
    match load task.source t with
    | .error e => s.fail e
    | .ok d => (.ok .done, { s with stage := .inputStaged, size := d.size, input := some d })
  | .stageOutput =>
    (.ok .done,
      { s with stage := .staged, output := some (.zeros (s.size + task.options.guardLength)) })
  | .acquireSession => (.ok .done, { s with stage := .sessionOpen })
  | .execute =>
    (.ok .done,
      { s with
        stage := .executed
        output := s.output.map (·.overwrite 0 ((s.input.getD .empty).slice 0 s.size).upper)
        retc := some Job.success })
  | .writeOutput =>
    let d := (s.output.getD .empty).take s.size
    match FileTree.filled (t.mayWrite place s.entry) d s.entry with
    | .error cause => s.fail (.writing d.size task.target cause)
    | .ok entry => (.ok .done, { s with entry := some entry })
  | .checkReturnCode =>
    if s.retc = some Job.success then (.ok (.returnCode Job.success), s)
    else s.fail (.returnCode (s.retc.getD 0))
  | .verify =>
    if task.options.verify then
      (.ok (.verification
          (.compare (s.input.getD .empty).toList (s.output.getD .empty).toList)),
        { s with stage := .verified })
    else (.ok (.verification .skipped), { s with stage := .skipped })

/-- What an account answers when it is asked, and the account afterwards. -/
def answer (task : Task) (place : Location) (t : FileTree) (s : Account) :
    Task.Act → Except Error Answer × Account
  | .step step =>
    if s.stage = step.requires then s.advance task place t step
    else (.error (.internal (.outOfOrder step s.stage)), s)
  | .teardown => (.ok .done, s.release)

/-! ### Clients and their accounts -/

variable {p : Platform Software.Cards} {task : Task} {place place' : Location} {t : FileTree}
  {s s' : Account} {c c' : Client Software.Cards} {m m' : Machine Software.Cards}
  {others : List HostBuffer} {b : HostBuffer} {d : Bytes} {files : FileTree}

/-- The files are as the task found them where it looks, but for what it has written itself. -/
structure Sees (task : Task) (place : Location) (t : FileTree) (s : Account) (files : FileTree) :
    Prop where
  workDir : files.workDir = t.workDir
  access : files.access = t.access
  source : s.stage = .unconfigured →
    ∀ l ∈ t.seen false task.source, files.entryAt? l = t.entryAt? l
  target : ∀ l ∈ t.seen true task.target, l ≠ place → files.entryAt? l = t.entryAt? l
  place : files.entryAt? place = s.entry
  leaf : FileTree.Leaf s.entry

/-- An account is that of a client on a machine. -/
structure Describes (task : Task) (place : Location) (t : FileTree) (s : Account)
    (c : Client Software.Cards) (m : Machine Software.Cards) : Prop where
  phase : Phase task.options c
  stage : c.stage = s.stage
  size : c.params.size = s.size
  retc : c.job.map Job.retc = s.retc
  input : c.input.map (fun b => m.memory.contents? b) = s.input.map some
  output : c.output.map (fun b => m.memory.contents? b) = s.output.map some
  session : ∀ session, c.session = some session →
    ∃ number, session.action = some ⟨Software.backend, number⟩
  sees : s.Sees task place t m.files

theorem describes_fresh (htarget : FileTree.Target task.target place m.files) :
    (fresh task.options (m.files.entryAt? place)).Describes task place m.files
      (.fresh task.options) m where
  phase := Client.phase_fresh task.options
  stage := rfl
  size := rfl
  retc := rfl
  input := rfl
  output := rfl
  session _ h := by cases h
  sees := ⟨rfl, rfl, fun _ _ _ => rfl, fun _ _ _ => rfl, rfl,
    (htarget.leads rfl rfl (fun _ _ _ => rfl) id true).1⟩

/-- What a client holds is told by its account. -/
theorem exists_contents {x : Option HostBuffer} {y : Option Bytes} {f : HostBuffer → Option Bytes}
    (h : x.map f = y.map some) (hb : x = some b) : ∃ d, y = some d ∧ f b = some d := by
  subst hb
  cases y with
  | none => cases h
  | some d => exact ⟨d, rfl, Option.some_inj.1 h⟩

/-- Buffers that hold what they held are told as they were. -/
theorem map_contents {x : Option HostBuffer} {y : Option Bytes}
    (h : x.map (fun b => m.memory.contents? b) = y.map some)
    (hkept : ∀ b ∈ x, m'.memory.contents? b = m.memory.contents? b) :
    x.map (fun b => m'.memory.contents? b) = y.map some :=
  (Option.map_congr hkept).trans h

theorem Sees.of_spares (h : s.Sees task place t m.files) (hm : Spares place' others m m')
    (hplace : place ≠ place') (hsource : place' ∉ t.seen false task.source)
    (htarget : place' ∉ t.seen true task.target) : s.Sees task place t m'.files where
  workDir := hm.workDir.trans h.workDir
  access := hm.access.trans h.access
  source hstage l hl :=
    (hm.entry l (ne_of_mem_of_not_mem hl hsource)).trans (h.source hstage l hl)
  target l hl hne := (hm.entry l (ne_of_mem_of_not_mem hl htarget)).trans (h.target l hl hne)
  place := (hm.entry place hplace).trans h.place
  leaf := h.leaf

/-- **Others may go on with what is theirs**: as long as they spare the buffers of a client, and
write no file that it looks at, its account is not affected. -/
theorem Describes.of_spares (h : s.Describes task place t c m)
    (hm : Spares place' c.buffers m m') (hplace : place ≠ place')
    (hsource : place' ∉ t.seen false task.source) (htarget : place' ∉ t.seen true task.target) :
    s.Describes task place t c m' :=
  { h with
    input := map_contents h.input fun b hb => hm.contents b (Client.mem_buffers_of_input hb)
    output := map_contents h.output fun b hb => hm.contents b (Client.mem_buffers_of_output hb)
    sees := h.sees.of_spares hm hplace hsource htarget }

/-! ### The buffers of a task -/

/-- The input of a task is in a buffer once it is staged. -/
theorem Describes.exists_input (h : s.Describes task place t c m)
    (hstage : c.stage = .inputStaged) :
    ∃ b, c.input = some b ∧ c.params.size = b.size ∧ b.size < UInt32.size := by
  obtain ⟨input, params, hin, rfl⟩ := h.phase.inputStaged hstage
  cases hin with
  | verbatim hnone => cases hnone.symm.trans task.input_eq
  | @file path b hsome hlt => exact ⟨b, rfl, rfl, hlt⟩

/-- Both buffers of a task are there once they are staged. -/
theorem exists_buffers {input output : Option HostBuffer} {params : Parameters}
    (h : Client.Staged task.options input output params) :
    ∃ b b', input = some b ∧ output = some b' := by
  obtain ⟨b, hb⟩ := Option.isSome_iff_exists.1 (h.input_iff.2 (task.input_eq ▸ rfl))
  obtain ⟨b', hb'⟩ := Option.isSome_iff_exists.1 (h.output_iff.2 (Or.inl (task.output_eq ▸ rfl)))
  exact ⟨b, b', hb, hb'⟩

/-- After the job both buffers are there, and the parameters say so. -/
theorem Describes.exists_staged (h : s.Describes task place t c m) (hstage : c.stage = .executed) :
    ∃ b b', c.input = some b ∧ c.output = some b' ∧ c.params.spaceIn = .hostDram ∧
      c.params.spaceOut = .hostDram := by
  obtain ⟨input, output, params, session, job, retc, hst, -, -, rfl⟩ := h.phase.executed hstage
  obtain ⟨b, b', rfl, rfl⟩ := exists_buffers hst
  obtain ⟨-, hin, -⟩ := hst.source_of_some rfl
  obtain ⟨-, hout, -⟩ := hst.target_of_some rfl
  exact ⟨b, b', rfl, rfl, hin, hout⟩

/-! ### The files of a task -/

/-- Before the input is staged, loading the input file comes to what it came to at the start. -/
theorem Sees.load_eq (h : s.Sees task place t files) (hstage : s.stage = .unconfigured) :
    load task.source files = load task.source t := by
  obtain ⟨hresolve, -⟩ := FileTree.resolve_congr h.workDir h.access (h.source hstage)
  have hsize : files.fileSize task.source = t.fileSize task.source := by
    rw [FileTree.fileSize, FileTree.fileSize, hresolve]
  have hread : ∀ len, files.readExact task.source len = t.readExact task.source len :=
    fun len => by rw [FileTree.readExact, FileTree.readExact, hresolve, h.access]
  rw [load, load, hsize]
  simp only [hread]

/-- A stage that is not the first one asks nothing of the input file. -/
theorem Sees.of_stage {files' : FileTree} (h : s.Sees task place t files)
    (hfiles : files' = files) (hentry : s'.entry = s.entry)
    (hstage : s'.stage ≠ .unconfigured) : s'.Sees task place t files' := by
  subst hfiles
  exact ⟨h.workDir, h.access, fun hfirst => absurd hfirst hstage, h.target, hentry ▸ h.place,
    hentry ▸ h.leaf⟩

/-- The path of the output file leads to its place. -/
theorem Sees.leads (h : s.Sees task place t files)
    (htarget : FileTree.Target task.target place t) (create : Bool) :
    place ≠ [] ∧ files.resolve create task.target = .ok ⟨place, files.entryAt? place⟩ := by
  have hleaf : FileTree.Leaf (files.entryAt? place) := h.place ▸ h.leaf
  obtain ⟨-, hnil, -, hleads, -⟩ := htarget.leads h.workDir h.access h.target (fun _ => hleaf)
    create
  exact ⟨hnil, hleads⟩

/-- **Two trees of one account have the same output file.** -/
theorem Sees.fileAt?_eq {files' : FileTree} (h : s.Sees task place t files)
    (h' : s.Sees task place t files') (htarget : FileTree.Target task.target place t) :
    files'.fileAt? task.target = files.fileAt? task.target := by
  obtain ⟨-, hleads⟩ := h.leads htarget false
  obtain ⟨-, hleads'⟩ := h'.leads htarget false
  rw [FileTree.fileAt?, FileTree.fileAt?, hleads, hleads', h.place, h'.place]

/-- What may be written at a place is what might be written there at the start. -/
theorem Sees.mayWrite_eq (h : s.Sees task place t files) (e : Option Entry) :
    files.mayWrite place e = t.mayWrite place e := by
  cases e <;> rw [FileTree.mayWrite, FileTree.mayWrite, h.access]

/-- **What is written to the output file goes to its place.** -/
theorem Sees.write_ok {files' : FileTree} (h : s.Sees task place t files)
    (htarget : FileTree.Target task.target place t) (hstage : s.stage ≠ .unconfigured)
    (hwrite : files.write task.target d = .ok files') :
    ∃ e, FileTree.filled (t.mayWrite place s.entry) d s.entry = .ok e ∧ files' = files.put place e ∧
      ({ s with entry := some e }).Sees task place t files' := by
  obtain ⟨hnil, hleads⟩ := h.leads htarget true
  rw [FileTree.write_eq hnil hleads, h.place, h.mayWrite_eq] at hwrite
  cases hfilled : FileTree.filled (t.mayWrite place s.entry) d s.entry with
  | error cause =>
      rw [hfilled] at hwrite
      cases hwrite
  | ok e =>
      rw [hfilled] at hwrite
      cases hwrite
      refine ⟨e, rfl, rfl, ?_⟩
      exact
        { workDir := h.workDir
          access := h.access
          source := fun hfirst => absurd hfirst hstage
          target := fun l hl hne =>
            (FileTree.entryAt?_put_of_ne hne e files).trans (h.target l hl hne)
          place := FileTree.entryAt?_put_self hnil e files
          leaf := FileTree.leaf_of_filled hfilled }

theorem Sees.write_error {cause : IoError} (h : s.Sees task place t files)
    (htarget : FileTree.Target task.target place t)
    (hwrite : files.write task.target d = .error cause) :
    FileTree.filled (t.mayWrite place s.entry) d s.entry = .error cause := by
  obtain ⟨hnil, hleads⟩ := h.leads htarget true
  rw [FileTree.write_eq hnil hleads, h.place, h.mayWrite_eq] at hwrite
  cases hfilled : FileTree.filled (t.mayWrite place s.entry) d s.entry with
  | error cause' =>
      rw [hfilled] at hwrite
      cases hwrite
      rfl
  | ok e =>
      rw [hfilled] at hwrite
      cases hwrite

end Account

end Offload
