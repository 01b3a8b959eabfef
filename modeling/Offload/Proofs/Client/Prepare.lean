/-
**When staging succeeds, and what is staged.**

With an allocator that serves what it is asked for, staging the input succeeds exactly when there is
no input file or a regular one that may be read and whose size fits a job, and staging the output
succeeds exactly when the size fits a job and there is something to allocate.  Then the buffers hold
what they should: the bytes of the file, and zeros.

Main definitions:

* `Allocator.Serves` — the next requests are granted;
* `Options.data`, `Options.dataLength` — what a job is to read on a fresh card, and how much;
* `Options.InputFits`, `Options.OutputFits` — when staging succeeds;
* `Client.HalfReady`, `Client.InputReady`, `Client.Ready` — what holds after staging.

Main results:

* `Client.stageInput_cases`, `Client.stageOutput_cases` — **staging leaves everything ready, or the
  options or the files rule it out**;
* `Client.ready_afterCalls` — a client that is staged is ready, whatever the allocator serves.
-/

import Offload.Proofs.Client.Phases
import Offload.Proofs.Memory.Contents

set_option relaxedAutoImplicit false
set_option autoImplicit false

namespace Offload

/-! ### What is asked for -/

/-- The largest buffer that a run can need: that of the longest job, with a guard. -/
def Allocator.largestServed : Nat := UInt32.size - 1 + 1024

/-- The data of a job is not too large for a buffer. -/
theorem Allocator.le_largestServed {n : Nat} (h : n < UInt32.size) : n ≤ largestServed := by
  rw [largestServed]
  omega

/-- The next `k` requests are granted, as long as they are not too large, when the blocks that were
granted before are still live. -/
def Allocator.Serves (A : Allocator) : Nat → Nat → List HostBuffer → Prop
  | 0, _, _ => True
  | k + 1, granted, live =>
    ∀ size, 0 < size → size ≤ largestServed →
      ∃ addr, A.place granted live size = some addr ∧
        A.Serves k (granted + 1) (⟨addr, size⟩ :: live)

theorem Allocator.Serves.of_succ {A : Allocator} {k granted : Nat} {live : List HostBuffer}
    (h : A.Serves (k + 1) granted live) : A.Serves k granted live := by
  induction k generalizing granted live with
  | zero => trivial
  | succ k ih =>
      intro size hpos hsize
      obtain ⟨addr, hplace, hrest⟩ := h size hpos hsize
      exact ⟨addr, hplace, ih hrest⟩

/-- The slots serve a run on empty memory. -/
theorem Allocator.serves_slots : slots.Serves 2 0 [] := by
  have hplace : ∀ k live size, size ≤ largestServed → above live ≤ firstSlot + k % 700 * slotSize →
      k < 700 →
      slots.place k live size = some (UInt64.ofNat (firstSlot + k * slotSize)) := by
    intro k live size hsize hlive hk
    rw [Nat.mod_eq_of_lt hk] at hlive
    simp only [slots, Nat.mod_eq_of_lt hk, Nat.max_eq_left hlive]
    refine if_pos ?_
    simp only [largestServed, UInt32.size, largest, firstSlot, slotSize, ceiling] at *
    omega
  intro size _ hsize
  refine ⟨_, hplace 0 [] size hsize (Nat.zero_le _) (by decide), ?_⟩
  intro size' _ hsize'
  refine ⟨_, hplace 1 _ size' hsize' ?_ (by decide), trivial⟩
  have haddr : (UInt64.ofNat (firstSlot + 0 * slotSize)).toNat = firstSlot := by decide
  simp only [above, List.foldr_cons, List.foldr_nil, HostBuffer.stop, haddr]
  simp only [largestServed, UInt32.size, firstSlot, slotSize] at *
  omega

namespace Options

variable {o : Options} {t : FileTree}

/-- The bytes that a job is to read: those of the input file, or the zeros of a fresh card. -/
def data (o : Options) (t : FileTree) : List UInt8 :=
  match o.input with
  | some path => ((t.fileAt? path).getD .empty).toList
  | none => List.replicate (o.size.getD standardSize) 0

/-- How many bytes a job is to read. -/
def dataLength (o : Options) (t : FileTree) : Nat :=
  match o.input with
  | some path => ((t.fileAt? path).getD .empty).size
  | none => o.size.getD standardSize

theorem length_data (o : Options) (t : FileTree) : (o.data t).length = o.dataLength t := by
  rw [data, dataLength]
  cases o.input with
  | none => exact List.length_replicate
  | some path => exact Bytes.length_toList _

theorem dataLength_of_file {path : Path} {d : Bytes} (hinput : o.input = some path)
    (hd : t.fileAt? path = some d) : o.dataLength t = d.size := by
  simp [dataLength, hinput, hd]

theorem data_of_file {path : Path} {d : Bytes} (hinput : o.input = some path)
    (hd : t.fileAt? path = some d) : o.data t = d.toList := by
  simp [data, hinput, hd]

/-- An input file, if there is to be one, is a regular file that may be read and whose size fits a
job. -/
def InputFits (o : Options) (t : FileTree) : Prop :=
  ∀ path, o.input = some path →
    (t.fileAt? path).isSome ∧ t.Readable path ∧ 0 < o.dataLength t ∧ o.dataLength t < UInt32.size

theorem guardLength_le (o : Options) : o.guardLength ≤ 1024 := by
  rw [guardLength]
  split <;> omega

/-- The data fits a job, and if there is to be an output buffer, it has at least one byte. -/
def OutputFits (o : Options) (t : FileTree) : Prop :=
  o.dataLength t < UInt32.size ∧ (o.stagesOutput = true → 0 < o.dataLength t + o.guardLength)

end Options

namespace Client

open Machine (Holding Noted)

variable {σ : Type} {p : Platform σ} {o : Options} {c c' : Client σ} {start m m' : Machine σ}
  {path : Path} {b : HostBuffer} {a : Answer} {e : Error}

/-! ### Serving -/

/-- A request that is served is granted, and so are those that follow it. -/
theorem allocate_of_serves {k size : Nat} {memory : HostMemory}
    (hserves : p.allocator.Serves (k + 1) memory.granted memory.live) (hpos : 0 < size)
    (hsize : size ≤ Allocator.largestServed) :
    ∃ b memory', memory.allocate p.allocator size = .ok (b, memory') ∧
      p.allocator.Serves k memory'.granted memory'.live := by
  obtain ⟨addr, hplace, hrest⟩ := hserves size hpos hsize
  have hmax : size ≤ HostMemory.maxSize := by
    simp only [Allocator.largestServed, HostMemory.maxSize, UInt32.size] at *
    omega
  refine ⟨⟨addr, size⟩, _,
    HostMemory.allocate_eq_ok_iff.2 ⟨Nat.ne_of_gt hpos, hmax, hplace, rfl, rfl⟩, ?_⟩
  simpa [HostMemory.live, Block.buffer] using hrest

/-- Where requests are served, only an empty one is refused. -/
theorem size_of_refused {k size : Nat} {memory : HostMemory} {fault : AllocFault}
    (hserves : p.allocator.Serves (k + 1) memory.granted memory.live)
    (hsize : size ≤ Allocator.largestServed)
    (h : memory.allocate p.allocator size = .error fault) : size = 0 := by
  refine Nat.eq_zero_of_not_pos fun hpos => ?_
  obtain ⟨b, memory', hok, -⟩ := allocate_of_serves hserves hpos hsize
  cases h.symm.trans hok

/-- After a request was granted, those that follow it are served. -/
theorem serves_of_granted {k size : Nat} {memory memory' : HostMemory}
    (hserves : p.allocator.Serves (k + 1) memory.granted memory.live)
    (hsize : size ≤ Allocator.largestServed)
    (h : memory.allocate p.allocator size = .ok (b, memory')) :
    p.allocator.Serves k memory'.granted memory'.live := by
  have hpos : 0 < size := Nat.pos_of_ne_zero (HostMemory.allocate_eq_ok_iff.1 h).1
  obtain ⟨b', memory'', hok, hrest⟩ := allocate_of_serves hserves hpos hsize
  cases h.symm.trans hok
  exact hrest

/-! ### The input -/

/-- A client whose input is staged, on the machine that it was staged on. -/
structure InputReady (p : Platform σ) (o : Options) (start : Machine σ) (c : Client σ)
    (m : Machine σ) : Prop where
  phase : Phase o c
  stage : c.stage = .inputStaged
  files : m.files = start.files
  holding : Holding c.buffers start.memory.live m
  serves : p.allocator.Serves 1 m.memory.granted m.memory.live
  size : c.params.size = o.dataLength start.files
  data : ∀ b, c.input = some b →
    ∃ d, m.memory.contents? b = some d ∧ d.toList = o.data start.files

/-- A buffer into which the whole of its contents were put holds just these. -/
theorem toList_fill (d : Bytes) : ((Bytes.zeros d.size).overwrite 0 d).toList = d.toList := by
  rw [Bytes.toList_overwrite]
  simp

/-- A block that was granted holds what is put into the whole of it. -/
theorem contents?_fill_granted {memory : HostMemory} {d : Bytes}
    (h : m.memory.allocate p.allocator b.size = .ok (b, memory)) (hd : d.size = b.size) :
    ∃ e, (({ m with memory }.recording (.allocated b)).fill b d).memory.contents? b = some e ∧
      e.toList = d.toList := by
  refine ⟨(Bytes.zeros b.size).overwrite 0 d, ?_, ?_⟩
  · rw [Machine.fill, HostMemory.contents?_modify_self]
    exact congrArg (Option.map _) (HostMemory.contents?_allocate_self h)
  · rw [← hd, toList_fill]

/-- **A file that was loaded** is a regular one that may be read, and the buffer holds the whole of
it. -/
theorem contents?_of_loadFile (h : loadFile p path m = (.ok b, m')) :
    ∃ d, m.files.fileAt? path = some d ∧ m.files.Readable path ∧ b.size = d.size ∧ 0 < d.size ∧
      ∃ e, m'.memory.contents? b = some e ∧ e.toList = d.toList := by
  cases load_loadFile h with
  | @loaded b memory e m' hsize hlen halloc hread hnoted =>
      obtain ⟨d, hd, hdb⟩ := FileTree.fileSize_eq_ok_iff.1 hsize
      have hmay := FileTree.readable_of_readExact hread
      have hall := FileTree.readExact_of_readable hd hmay
      rw [hdb, hread, Except.ok.injEq, ← hdb] at hall
      have hpos : 0 < b.size := Nat.pos_of_ne_zero (HostMemory.allocate_eq_ok_iff.1 halloc).1
      obtain ⟨f, hf, hdata⟩ := contents?_fill_granted halloc (FileTree.size_readExact hread)
      refine ⟨d, hd, hmay, hdb.symm, hdb ▸ hpos, f, hnoted.memory ▸ hf, hdata.trans ?_⟩
      rw [hall, Bytes.toList_take, ← Bytes.length_toList, List.take_length]

/-- **What loading comes to when the allocator serves**: the whole of a regular file that may be
read and whose size fits a job is loaded, and nothing else is. -/
theorem loadFile_cases {k : Nat} {held others : List HostBuffer} (hA : p.allocator.Sound)
    (hm : Holding held others m)
    (hserves : p.allocator.Serves (k + 1) m.memory.granted m.memory.live) (path : Path) :
    (∃ b m' d, loadFile p path m = (.ok b, m') ∧ m.files.fileAt? path = some d ∧
        m.files.Readable path ∧ b.size = d.size ∧ 0 < d.size ∧ m'.files = m.files ∧
        p.allocator.Serves k m'.memory.granted m'.memory.live ∧
        ∃ e, m'.memory.contents? b = some e ∧ e.toList = d.toList) ∨
      ∃ e m', loadFile p path m = (.error e, m') ∧
        ∀ d, m.files.fileAt? path = some d → m.files.Readable path →
          d.size = 0 ∨ UInt32.size ≤ d.size := by
  rcases hload : loadFile p path m with ⟨r, m'⟩
  -- Of the ways in which a load fails, an allocator that serves leaves those that a regular file of
  -- a fitting size cannot take.
  cases load_loadFile hload with
  | @unsized cause m' hsize hnoted =>
      refine Or.inr ⟨_, m', rfl, ?_⟩
      rintro d hd -
      rw [FileTree.fileSize_eq_ok_iff.2 ⟨d, hd, rfl⟩] at hsize
      cases hsize
  | @oversized len m' hsize hlen hnoted =>
      refine Or.inr ⟨_, m', rfl, ?_⟩
      rintro d hd -
      obtain ⟨d', hd', rfl⟩ := FileTree.fileSize_eq_ok_iff.1 hsize
      rw [hd, Option.some_inj] at hd'
      exact Or.inr (hd' ▸ hlen)
  | @refused len fault m' hsize hlen halloc hnoted =>
      refine Or.inr ⟨_, m', rfl, ?_⟩
      rintro d hd -
      obtain ⟨d', hd', rfl⟩ := FileTree.fileSize_eq_ok_iff.1 hsize
      rw [hd, Option.some_inj] at hd'
      exact Or.inl (hd' ▸ size_of_refused hserves (Allocator.le_largestServed hlen) halloc)
  | @unread b memory cause m' hsize hlen halloc hread hnoted =>
      refine Or.inr ⟨_, m', rfl, ?_⟩
      intro d hd hmay
      obtain ⟨d', hd', hsize'⟩ := FileTree.fileSize_eq_ok_iff.1 hsize
      cases hd.symm.trans hd'
      exact absurd hmay (FileTree.not_readable_of_error hd (hsize' ▸ hread)).1
  | @loaded b memory e m' hsize hlen halloc hread hnoted =>
      obtain ⟨d, hd, hmay, hdb, hpos, hcontents⟩ := contents?_of_loadFile hload
      have he : e.size = b.size := FileTree.size_readExact hread
      have hlive := Machine.live_fill (hm.grant hA halloc) (Nat.le_of_eq he)
      refine Or.inl ⟨b, m', d, rfl, hd, hmay, hdb, hpos, hnoted.files, ?_, hcontents⟩
      rw [hnoted.memory, hlive]
      exact serves_of_granted hserves (Allocator.le_largestServed hlen) halloc

/-- Staging the input fails only for an input file that is not fit for a job. -/
theorem not_inputFits_of_setback (hA : p.allocator.Sound) (hm : m.memory.Sound)
    (hserves : p.allocator.Serves 2 m.memory.granted m.memory.live)
    (h : Setback p (fresh o) m .stageInput e m') : ¬o.InputFits m.files := by
  have hheld : Holding [] m.memory.live m := ⟨hm, List.Perm.refl _⟩
  intro hfits
  cases h with
  | @input path e m' hinput hload =>
      replace hinput : o.input = some path := hinput
      obtain ⟨hregular, hmay, hpos, hlt⟩ := hfits path hinput
      obtain ⟨d, hd⟩ := Option.isSome_iff_exists.1 hregular
      rw [Options.dataLength_of_file hinput hd] at hpos hlt
      rcases loadFile_cases hA hheld hserves path with ⟨b, m'', d', hok, -⟩ | ⟨e', m'', -, hbad⟩
      · rw [hload] at hok
        cases hok
      · have hsize := hbad d hd hmay
        omega

/-- A client whose input is staged, wherever that was. -/
structure HalfReady (o : Options) (start : Machine σ) (c : Client σ) (m : Machine σ) : Prop where
  phase : Phase o c
  stage : c.stage = .inputStaged
  files : m.files = start.files
  holding : Holding c.buffers start.memory.live m
  size : c.params.size = o.dataLength start.files
  data : ∀ b, c.input = some b →
    ∃ d, m.memory.contents? b = some d ∧ d.toList = o.data start.files

theorem InputReady.halfReady (h : InputReady p o start c m) : HalfReady o start c m :=
  ⟨h.phase, h.stage, h.files, h.holding, h.size, h.data⟩

/-- Staging the input, if it succeeds, leaves its data in the buffer. -/
theorem halfReady_of_advance (hA : p.allocator.Sound) (hm : m.memory.Sound)
    (h : Advance p (fresh o) m .stageInput a c m') : HalfReady o m c m' := by
  have hstage : (fresh o : Client σ).stage = Step.stageInput.requires := rfl
  have hheld : Holding (fresh o : Client σ).buffers m.memory.live m := ⟨hm, List.Perm.refl _⟩
  have hphase' := phase_advance hstage (phase_fresh o) h
  have hheld' := holding_advance hA hstage (phase_fresh o) hheld h
  cases h with
  | noInput hinput =>
      replace hinput : o.input = none := hinput
      refine ⟨hphase', rfl, rfl, hheld', ?_, ?_⟩
      · rw [Options.dataLength, hinput]
        rfl
      · intro b hb
        cases hb
  | @input path b m' hinput hload =>
      replace hinput : o.input = some path := hinput
      obtain ⟨d, hd, -, hsize, -, hcontents⟩ := contents?_of_loadFile hload
      have hn := Options.dataLength_of_file hinput hd
      refine ⟨hphase', rfl, files_of_loadFile hload, hheld', hsize.trans hn.symm, ?_⟩
      intro b' hb'
      cases hb'
      rw [Options.data_of_file hinput hd]
      exact hcontents

/-- Staging the input, if it succeeds, leaves it ready. -/
theorem inputReady_of_advance (hA : p.allocator.Sound) (hm : m.memory.Sound)
    (hserves : p.allocator.Serves 2 m.memory.granted m.memory.live)
    (h : Advance p (fresh o) m .stageInput a c m') :
    o.InputFits m.files ∧ InputReady p o m c m' := by
  have hheld : Holding (fresh o : Client σ).buffers m.memory.live m := ⟨hm, List.Perm.refl _⟩
  obtain ⟨hphase, hstage, hfiles, hholding, hsize, hdata⟩ := halfReady_of_advance hA hm h
  cases h with
  | noInput hinput =>
      replace hinput : o.input = none := hinput
      refine ⟨?_, hphase, hstage, hfiles, hholding, hserves.of_succ, hsize, hdata⟩
      intro path hpath
      cases hinput.symm.trans hpath
  | @input path b m' hinput hload =>
      replace hinput : o.input = some path := hinput
      have hlt := size_of_loadFile hload
      rcases loadFile_cases hA hheld hserves path with
        ⟨b', m'', d, hok, hd, hmay, hb, hpos, -, hrest, -⟩ | ⟨e', m'', hbad, -⟩
      · cases hload.symm.trans hok
        have hn := Options.dataLength_of_file hinput hd
        refine ⟨?_, hphase, hstage, hfiles, hholding, hrest, hsize, hdata⟩
        intro path' hpath
        cases hinput.symm.trans hpath
        exact ⟨hd ▸ rfl, hmay, hn ▸ hpos, by omega⟩
      · cases hload.symm.trans hbad

/-- **Staging the input leaves it ready, or the input file rules that out.** -/
theorem stageInput_cases (hA : p.allocator.Sound) (hm : m.memory.Sound)
    (hserves : p.allocator.Serves 2 m.memory.granted m.memory.live) (o : Options) :
    (∃ c m', (fresh o).stageInput p m = (.ok (), c, m') ∧ o.InputFits m.files ∧
        InputReady p o m c m') ∨
      ∃ e c m', (fresh o).stageInput p m = (.error e, c, m') ∧ ¬o.InputFits m.files := by
  have hstage : (fresh o : Client σ).stage = .unconfigured := rfl
  rcases moves_stageInput (p := p) (m := m) hstage with ⟨e, m', hset, heq⟩ | ⟨a, c, m', hadv, heq⟩
  · exact Or.inr ⟨e, _, _, eq_of_map_eq_error heq, not_inputFits_of_setback hA hm hserves hset⟩
  · obtain ⟨done, hok, -⟩ := eq_of_map_eq_ok heq
    exact Or.inl ⟨c, m', hok, inputReady_of_advance hA hm hserves hadv⟩

/-! ### The output -/

/-- An output buffer that is served is granted. -/
theorem outputBuffer_of_serves {k size guard : Nat}
    (hserves : p.allocator.Serves (k + 1) m.memory.granted m.memory.live) (hpos : 0 < size + guard)
    (hle : size + guard ≤ Allocator.largestServed) :
    ∃ b m', outputBuffer p size guard m = (.ok b, m') := by
  have hlt : size + guard < UInt64.size := by
    simp only [Allocator.largestServed, UInt32.size, UInt64.size] at *
    omega
  rw [outputBuffer, if_pos hlt]
  obtain ⟨b, memory, hgrant, -⟩ := allocate_of_serves hserves hpos hle
  rcases Machine.allocate_spec p (size + guard) m with ⟨fault, hfault, -⟩ | ⟨b', memory', -, hok, -⟩
  · rw [hgrant] at hfault
    cases hfault
  · exact ⟨b', _, Prod.ext hok rfl⟩

/-- A client whose input and output are staged. -/
structure Ready (o : Options) (start : Machine σ) (c : Client σ) (m : Machine σ) : Prop where
  phase : Phase o c
  stage : c.stage = .staged
  files : m.files = start.files
  holding : Holding c.buffers start.memory.live m
  size : c.params.size = o.dataLength start.files
  data : ∀ b, c.input = some b →
    ∃ d, m.memory.contents? b = some d ∧ d.toList = o.data start.files
  room : ∀ b, c.output = some b → ∃ d, m.memory.contents? b = some d ∧
    d.toList = List.replicate (o.dataLength start.files + o.guardLength) 0

theorem Ready.staged (h : Ready o start c m) : Staged o c.input c.output c.params :=
  h.phase.staged_of_stage h.stage

/-- An output buffer has room for the data and for the guard. -/
theorem Ready.size_output (h : Ready o start c m) (hb : c.output = some b) :
    b.size = o.dataLength start.files + o.guardLength := by
  obtain ⟨d, hd, hzeros⟩ := h.room b hb
  have hsize := h.holding.sound.size_of_contents? (h.holding.mem_live (mem_buffers_of_output hb)) hd
  rw [← hsize, ← Bytes.length_toList, hzeros, List.length_replicate]

/-- Staging the output fails only for data of a size that is not fit for it. -/
theorem not_outputFits_of_setback (h : InputReady p o start c m)
    (hset : Setback p c m .stageOutput e m') : ¬o.OutputFits start.files := by
  rintro ⟨hlt, hpos⟩
  cases hset with
  | oversized hsize => exact Nat.not_lt.2 (h.size ▸ hsize) hlt
  | @output e m' hsize houtput hbuffer =>
      rw [h.phase.options] at houtput hbuffer
      rw [h.size] at hbuffer
      have hguard := o.guardLength_le
      have hserved : o.dataLength start.files + o.guardLength ≤ Allocator.largestServed := by
        rw [Allocator.largestServed]
        omega
      obtain ⟨b, m'', hok⟩ := outputBuffer_of_serves h.serves (hpos houtput) hserved
      cases hbuffer.symm.trans hok

/-- Staging the output, if it succeeds, leaves everything ready. -/
theorem ready_of_advance (hA : p.allocator.Sound) (h : HalfReady o start c m)
    (hadv : Advance p c m .stageOutput a c' m') :
    o.OutputFits start.files ∧ Ready o start c' m' := by
  have hphase' := phase_advance h.stage h.phase hadv
  have hheld' := holding_advance hA h.stage h.phase h.holding hadv
  obtain ⟨input, params, hin, rfl⟩ := h.phase.inputStaged h.stage
  have hn : params.size = o.dataLength start.files := h.size
  cases hadv with
  | noOutput hsize houtput =>
      replace houtput : o.stagesOutput = false := houtput
      refine ⟨⟨hn ▸ hsize, ?_⟩, hphase', rfl, h.files, hheld', hn, h.data, ?_⟩
      · intro hstages
        cases houtput.symm.trans hstages
      · intro b hb
        cases hb
  | @output b m' hsize houtput hbuffer =>
      obtain ⟨hb, halloc⟩ := outputBuffer_ok hbuffer
      replace hb : b.size = params.size + o.guardLength := hb
      obtain ⟨memory, hgrant, hnoted⟩ := Machine.allocate_ok_spec halloc
      have hpos : 0 < params.size + o.guardLength :=
        Nat.pos_of_ne_zero (HostMemory.allocate_eq_ok_iff.1 hgrant).1
      refine ⟨⟨hn ▸ hsize, fun _ => hn ▸ hpos⟩, hphase', rfl, hnoted.files.trans h.files, hheld',
        hn, ?_, ?_⟩
      · -- The new buffer is apart from the input buffer, which keeps its contents.
        intro b' hb'
        have hlive := h.holding.mem_live (mem_buffers_of_input hb')
        have hne := HostMemory.addr_ne_of_allocate hA h.holding.sound hgrant hlive
        rw [hnoted.memory, Machine.memory_recording,
          HostMemory.contents?_allocate_of_ne hgrant hne]
        exact h.data b' hb'
      · intro b' hb'
        cases hb'
        refine ⟨.zeros b.size, ?_, ?_⟩
        · rw [hnoted.memory, hb]
          exact HostMemory.contents?_allocate_self hgrant
        · rw [Bytes.toList_zeros, hb, hn]

/-- **Staging the output leaves everything ready, or the size of the data rules that out.** -/
theorem stageOutput_cases (hA : p.allocator.Sound) (h : InputReady p o start c m) :
    (∃ c' m', c.stageOutput p m = (.ok (), c', m') ∧ o.OutputFits start.files ∧
        Ready o start c' m') ∨
      ∃ e c' m', c.stageOutput p m = (.error e, c', m') ∧ ¬o.OutputFits start.files := by
  rcases moves_stageOutput (p := p) (m := m) h.stage with
    ⟨e, m', hset, heq⟩ | ⟨a, c', m', hadv, heq⟩
  · exact Or.inr ⟨e, _, _, eq_of_map_eq_error heq, not_outputFits_of_setback h hset⟩
  · obtain ⟨done, hok, -⟩ := eq_of_map_eq_ok heq
    exact Or.inl ⟨c', m', hok, ready_of_advance hA h.halfReady hadv⟩

/-- **A client that is staged is ready**: its buffers hold the input file and zeros. -/
theorem ready_afterCalls (hA : p.allocator.Sound) (hm : m.memory.Sound) (o : Options)
    (h : (afterCalls p [.step .stageInput, .step .stageOutput] (fresh o) m).1.stage = .staged) :
    let after := afterCalls p [.step .stageInput, .step .stageOutput] (fresh o) m
    Ready o m after.1 after.2 := by
  simp only [afterCalls_cons, afterCalls_nil, answer] at h ⊢
  rcases moves_stageInput (p := p) (c := fresh o) (m := m) rfl with
    ⟨e, m₁, -, heq⟩ | ⟨a, c₁, m₁, hadv, heq⟩ <;> rw [heq] at h ⊢
  · -- A client that has failed refuses to stage its output.
    have hne : ((fresh o).fail e m₁ : Turn σ Answer).2.1.stage ≠ Step.stageOutput.requires := by
      rw [stage_fail]
      decide
    have hrefused := answer_of_ne_requires (p := p)
      (m := ((fresh o).fail e m₁ : Turn σ Answer).2.2) hne
    rw [answer] at hrefused
    rw [hrefused, stage_fail] at h
    cases h
  · have hhalf := halfReady_of_advance hA hm hadv
    rcases moves_stageOutput (p := p) (c := c₁) (m := m₁) hhalf.stage with
      ⟨e, m₂, -, heq⟩ | ⟨a', c₂, m₂, hadv', heq⟩ <;> rw [heq] at h ⊢
    · rw [stage_fail] at h
      cases h
    · exact (ready_of_advance hA hhalf hadv').2

end Client

end Offload
