/-
**Staging, row by row.**

What staging comes to is told here as a table.  Its rows exclude one another and leave nothing out:
whatever the options and the files are, one row applies, and it has the error in it or all that is
staged.  The rows for the input come first, in the order in which the faults are looked for, then
those for the output.  Staging opens no card and changes no file, whichever row it is.

Main definitions:

* `HostBuffer.Holds` — a buffer is aligned and holds just these bytes;
* `Machine.BuffersOnly` — nothing was done but to take buffers and give them back;
* `Client.InputRow`, `Client.OutputRow` — the rows.

Main results:

* `Client.inputRow_stageInput`, `Client.outputRow_stageOutput` — one of the rows applies;
* `Client.OutputRow.argument_iff`, `Client.OutputRow.allocating_iff` — when the rows with an error
  do;
* `Client.staging_exact` — **staging is what the table says**.
-/

import Offload.Program
import Offload.Proofs.Client.Prepare
import Offload.Proofs.Client.Release

set_option relaxedAutoImplicit false
set_option autoImplicit false

namespace Offload

variable {σ : Type} {p : Platform σ} {o : Options} {m m' m'' : Machine σ}

/-! ### Buffers -/

/-- The buffer is aligned and holds just these bytes. -/
structure HostBuffer.Holds (b : HostBuffer) (memory : HostMemory) (bytes : List UInt8) : Prop where
  aligned : b.addr.toNat % 64 = 0
  size : b.size = bytes.length
  contents : ∃ d, memory.contents? b = some d ∧ d.toList = bytes

/-- A live buffer is aligned, and it holds what is in it. -/
theorem HostBuffer.holds_of_mem {b : HostBuffer} {memory : HostMemory} {d : Bytes}
    (hm : memory.Sound) (hb : b ∈ memory.live) (hd : memory.contents? b = some d) :
    b.Holds memory d.toList where
  aligned := (hm.placed b hb).aligned
  size := by rw [Bytes.length_toList, hm.size_of_contents? hb hd]
  contents := ⟨d, hd, rfl⟩

namespace Machine

/-- Between the two machines buffers were taken, filled and given back, and nothing else was done:
no card was opened or called, no file was written. -/
structure BuffersOnly (m m' : Machine σ) : Prop where
  files : m'.files = m.files
  devices : m'.devices = m.devices
  events : ∃ new, m'.events = m.events ++ new ∧
    ∀ e ∈ new, ∃ b, e = .allocated b ∨ e = .freed b

theorem BuffersOnly.refl (m : Machine σ) : BuffersOnly m m :=
  ⟨rfl, rfl, [], (List.append_nil _).symm, List.forall_mem_nil _⟩

theorem BuffersOnly.trans (h : BuffersOnly m m') (h' : BuffersOnly m' m'') :
    BuffersOnly m m'' := by
  obtain ⟨new, hevents, hnew⟩ := h.events
  obtain ⟨new', hevents', hnew'⟩ := h'.events
  refine ⟨h'.files.trans h.files, h'.devices.trans h.devices, new ++ new', ?_,
    List.forall_mem_append.2 ⟨hnew, hnew'⟩⟩
  rw [hevents', hevents, List.append_assoc]

theorem Noted.buffersOnly (h : Noted m m') : BuffersOnly m m' :=
  ⟨h.files, h.devices, [], by rw [h.events, List.append_nil], List.forall_mem_nil _⟩

theorem buffersOnly_recording {memory : HostMemory} {e : Event}
    (he : ∃ b, e = .allocated b ∨ e = .freed b) :
    BuffersOnly m ({ m with memory }.recording e) :=
  ⟨rfl, rfl, [e], rfl, List.forall_mem_singleton.2 he⟩

theorem buffersOnly_free (b : HostBuffer) (m : Machine σ) : BuffersOnly m (m.free b) :=
  ⟨rfl, rfl, [.freed b], rfl, List.forall_mem_singleton.2 ⟨b, .inr rfl⟩⟩

end Machine

namespace Client

open Machine (BuffersOnly Noted)

variable {c c' : Client σ} {b : HostBuffer}

theorem buffersOnly_loadFile {path : Path} {r : Except Error HostBuffer}
    (h : loadFile p path m = (r, m')) : BuffersOnly m m' := by
  have hgranted {b : HostBuffer} {memory : HostMemory} :
      BuffersOnly m ({ m with memory }.recording (.allocated b)) :=
    Machine.buffersOnly_recording ⟨b, .inl rfl⟩
  cases load_loadFile h with
  | unsized _ hm | oversized _ _ hm | refused _ _ _ hm => exact hm.buffersOnly
  | unread _ _ _ _ hm =>
      exact (hgranted.trans (Machine.buffersOnly_free _ _)).trans hm.buffersOnly
  | loaded _ _ _ _ hm =>
      -- Filling the buffer leaves no trace.
      exact hgranted.trans ⟨hm.files, hm.devices, [], by rw [hm.events]; simp [Machine.fill],
        List.forall_mem_nil _⟩

theorem buffersOnly_outputBuffer {size guard : Nat} {r : Except Error HostBuffer}
    (h : outputBuffer p size guard m = (r, m')) : BuffersOnly m m' := by
  cases r with
  | error e => exact eq_of_outputBuffer_error h ▸ .refl m
  | ok b =>
      obtain ⟨memory, -, hnoted⟩ := Machine.allocate_ok_spec (outputBuffer_ok h).2
      exact (Machine.buffersOnly_recording ⟨b, .inl rfl⟩).trans hnoted.buffersOnly

/-- A teardown without a session only gives buffers back. -/
theorem buffersOnly_teardown (hsession : c.session = none) (m : Machine σ) :
    BuffersOnly m (c.teardown m).2 := by
  refine ⟨files_teardown c m, ?_, c.buffers.reverse.map .freed, ?_, ?_⟩
  · rw [teardown, hsession]
    cases c.input <;> cases c.output <;> rfl
  · rw [events_teardown, hsession]
    rfl
  · intro e he
    obtain ⟨b, -, rfl⟩ := List.mem_map.1 he
    exact ⟨b, .inr rfl⟩

theorem buffersOnly_fail (hsession : c.session = none) (e : Error) (m : Machine σ) :
    BuffersOnly m (c.fail e m : Turn σ Unit).2.2 :=
  buffersOnly_teardown (c := { c with stage := .failed }) hsession m

theorem buffersOnly_stageInput (hsession : c.session = none) (m : Machine σ) :
    BuffersOnly m (c.stageInput p m).2.2 := by
  rw [stageInput, inStage]
  split
  · split
    · exact .refl m
    · next path _ =>
        rcases hload : loadFile p path m with ⟨e | b, m'⟩ <;> simp only
        · exact (buffersOnly_loadFile hload).trans (buffersOnly_fail hsession e m')
        · exact buffersOnly_loadFile hload
  · exact .refl m

theorem buffersOnly_stageOutput (hsession : c.session = none) (m : Machine σ) :
    BuffersOnly m (c.stageOutput p m).2.2 := by
  rw [stageOutput, inStage]
  split
  · split
    · exact buffersOnly_fail hsession _ m
    · split
      · rcases hbuffer : outputBuffer p c.params.size c.options.guardLength m with
          ⟨e | b, m'⟩ <;> simp only
        · exact (buffersOnly_outputBuffer hbuffer).trans (buffersOnly_fail hsession e m')
        · exact buffersOnly_outputBuffer hbuffer
      · exact .refl m
  · exact .refl m

/-- Staging the input opens no session. -/
theorem session_stageInput (hsession : c.session = none) (m : Machine σ) :
    (c.stageInput p m).2.1.session = none := by
  rw [stageInput, inStage]
  split
  · split
    · exact hsession
    · next path _ =>
        rcases loadFile p path m with ⟨e | b, m'⟩
        · rfl
        · exact hsession
  · exact hsession

/-- **Staging opens no card and changes no file**, whether it succeeds, fails or is refused. -/
theorem buffersOnly_staging (o : Options) (m : Machine σ) :
    BuffersOnly m (((fresh o).stageInput p m).2.1.stageOutput p
      ((fresh o).stageInput p m).2.2).2.2 :=
  (buffersOnly_stageInput rfl m).trans (buffersOnly_stageOutput (session_stageInput rfl m) _)

/-! ### The input -/

/-- **What staging the input comes to.**  A file that is not regular comes first, then one that no
job can carry, then one that is empty, then one that may not be read; a file that may be read is
staged as it is, whatever size was configured.  Without a file, what was configured stays. -/
inductive InputRow (o : Options) (m : Machine σ) : Turn σ Unit → Prop
  | irregular {path : Path} {cause : IoError} {c : Client σ} {m' : Machine σ}
      (hinput : o.input = some path) (hfile : m.files.fileAt? path = none)
      (hcause : m.files.fileSize path = .error cause) :
      InputRow o m (.error (.sizing path cause), c, m')
  | oversized {path : Path} {d : Bytes} {c : Client σ} {m' : Machine σ}
      (hinput : o.input = some path) (hfile : m.files.fileAt? path = some d)
      (hsize : UInt32.size ≤ d.size) :
      InputRow o m (.error (.argument (.oversized d.size)), c, m')
  | empty {path : Path} {d : Bytes} {c : Client σ} {m' : Machine σ}
      (hinput : o.input = some path) (hfile : m.files.fileAt? path = some d) (hsize : d.size = 0) :
      InputRow o m (.error (.allocating 0 .empty), c, m')
  | unread {path : Path} {d : Bytes} {c : Client σ} {m' : Machine σ}
      (hinput : o.input = some path) (hfile : m.files.fileAt? path = some d) (hpos : 0 < d.size)
      (hsize : d.size < UInt32.size) (hread : ¬m.files.Readable path) :
      InputRow o m (.error (.reading path .permissionDenied), c, m')
  | staged {path : Path} {d : Bytes} {b : HostBuffer} {c : Client σ} {m' : Machine σ}
      (hinput : o.input = some path) (hfile : m.files.fileAt? path = some d) (hpos : 0 < d.size)
      (hsize : d.size < UInt32.size) (hread : m.files.Readable path)
      (hbuffer : c.input = some b) (hholds : b.Holds m'.memory d.toList)
      (hparams : c.params = { Parameters.ofOptions o with
        size := d.size, spaceIn := .hostDram, addrIn := b.addr }) :
      InputRow o m (.ok (), c, m')
  | verbatim {c : Client σ} {m' : Machine σ} (hinput : o.input = none)
      (hbuffer : c.input = none) (hspace : c.params.spaceIn = o.sourceSpace)
      (haddr : c.params.addrIn = o.sourceAddr.getD 0)
      (hsize : c.params.size = o.size.getD (1024 * 1024)) :
      InputRow o m (.ok (), c, m')

/-- **One of the rows applies to the input.** -/
theorem inputRow_stageInput (hA : p.allocator.Sound) (hm : m.memory.Sound)
    (hserves : p.allocator.Serves 2 m.memory.granted m.memory.live) (o : Options) :
    InputRow o m ((fresh o).stageInput p m) := by
  rw [stageInput, inStage_eq _ rfl]
  cases hinput : (fresh o : Client σ).options.input with
  | none => exact .verbatim hinput rfl rfl rfl rfl
  | some path =>
      rcases hload : loadFile p path m with ⟨r, m'⟩
      simp only [hload]
      cases load_loadFile hload with
      | unsized hsize _ =>
          refine .irregular hinput (Option.eq_none_iff_forall_ne_some.2 fun d hd => ?_) hsize
          cases hsize.symm.trans (FileTree.fileSize_eq_ok_iff.2 ⟨d, hd, rfl⟩)
      | oversized hsize hlen _ =>
          obtain ⟨d, hd, rfl⟩ := FileTree.fileSize_eq_ok_iff.1 hsize
          exact .oversized hinput hd hlen
      | @refused len fault m' hsize hlen halloc _ =>
          obtain ⟨d, hd, rfl⟩ := FileTree.fileSize_eq_ok_iff.1 hsize
          have hzero := size_of_refused hserves (Allocator.le_largestServed hlen) halloc
          rw [hzero] at halloc ⊢
          have hempty : m.memory.allocate p.allocator 0 = .error .empty := if_pos rfl
          cases halloc.symm.trans hempty
          exact .empty hinput hd hzero
      | @unread b memory cause m' hsize hlen halloc hread _ =>
          obtain ⟨d, hd, hdb⟩ := FileTree.fileSize_eq_ok_iff.1 hsize
          have hpos := Nat.pos_of_ne_zero (HostMemory.allocate_eq_ok_iff.1 halloc).1
          obtain ⟨hmay, rfl⟩ := FileTree.not_readable_of_error hd (hdb ▸ hread)
          exact .unread hinput hd (hdb ▸ hpos) (hdb ▸ hlen) hmay
      | @loaded b memory d' m' hsize hlen halloc hread hnoted =>
          obtain ⟨d, hd, hmay, hdb, hpos, e, he, hcontents⟩ := contents?_of_loadFile hload
          have hnothing : Machine.Holding [] m.memory.live m := ⟨hm, .refl _⟩
          have hheld := holding_of_loadFile hA hnothing hload
          have hholds := HostBuffer.holds_of_mem hheld.sound (hheld.mem_live (by simp)) he
          rw [hcontents] at hholds
          exact .staged hinput hd hpos (hdb ▸ hlen) hmay rfl hholds (hdb ▸ rfl)

/-- The file is found to be unreadable exactly if it could be staged otherwise. -/
theorem InputRow.reading_iff {t : Turn σ Unit} (h : InputRow o m t) :
    (∃ path cause, t.1 = .error (.reading path cause)) ↔
      ∃ path d, o.input = some path ∧ m.files.fileAt? path = some d ∧ 0 < d.size ∧
        d.size < UInt32.size ∧ ¬m.files.Readable path := by
  -- In any other row the first two of the conditions give the file of the row.
  cases h with
  | unread hinput hfile hpos hsize hread =>
      exact iff_of_true ⟨_, _, rfl⟩ ⟨_, _, hinput, hfile, hpos, hsize, hread⟩
  | irregular hinput hfile =>
      refine iff_of_false (by rintro ⟨path, cause, h⟩; cases h) ?_
      rintro ⟨path, d, hpath, hd, -⟩
      cases hinput.symm.trans hpath
      cases hfile.symm.trans hd
  | oversized hinput hfile hlarge =>
      refine iff_of_false (by rintro ⟨path, cause, h⟩; cases h) ?_
      rintro ⟨path, d, hpath, hd, -, hsize, -⟩
      cases hinput.symm.trans hpath
      cases hfile.symm.trans hd
      exact Nat.not_lt.2 hlarge hsize
  | empty hinput hfile hzero =>
      refine iff_of_false (by rintro ⟨path, cause, h⟩; cases h) ?_
      rintro ⟨path, d, hpath, hd, hpos, -⟩
      cases hinput.symm.trans hpath
      cases hfile.symm.trans hd
      exact Nat.ne_of_gt hpos hzero
  | staged hinput hfile _ _ hread =>
      refine iff_of_false (by rintro ⟨path, cause, h⟩; cases h) ?_
      rintro ⟨path, d, hpath, -, -, -, hnot⟩
      cases hinput.symm.trans hpath
      exact hnot hread
  | verbatim hinput =>
      refine iff_of_false (by rintro ⟨path, cause, h⟩; cases h) ?_
      rintro ⟨path, d, hpath, -⟩
      cases hinput.symm.trans hpath

/-! ### The output -/

/-- **What staging the output comes to.**  A size that no job can carry comes first, whether the
output is staged or not, and the allocator is not even asked; then an output of no bytes.  Otherwise
the output is a buffer of zeros with room for the guard, or what was configured stays. -/
inductive OutputRow (p : Platform σ) (o : Options) (c : Client σ) (m : Machine σ) :
    Turn σ Unit → Prop
  | oversized {c' : Client σ} {m' : Machine σ} (hsize : UInt32.size ≤ c.params.size)
      (hunasked : ∀ q : Platform σ, c.stageOutput q m = c.stageOutput p m) :
      OutputRow p o c m (.error (.argument (.oversized c.params.size)), c', m')
  | empty {c' : Client σ} {m' : Machine σ} (hsize : c.params.size < UInt32.size)
      (hstages : o.stagesOutput = true)
      (hzero : c.params.size + (if o.verify then 1024 else 0) = 0) :
      OutputRow p o c m (.error (.allocating 0 .empty), c', m')
  | staged {b : HostBuffer} {c' : Client σ} {m' : Machine σ} (hsize : c.params.size < UInt32.size)
      (hstages : o.stagesOutput = true)
      (hpos : 0 < c.params.size + (if o.verify then 1024 else 0))
      (hbuffer : c'.output = some b)
      (hholds : b.Holds m'.memory
        (List.replicate (c.params.size + (if o.verify then 1024 else 0)) 0))
      (hparams : c'.params = { c.params with spaceOut := .hostDram, addrOut := b.addr })
      (hinput : c'.input = c.input)
      (hkept : ∀ b bytes, c.input = some b → b.Holds m.memory bytes → b.Holds m'.memory bytes) :
      OutputRow p o c m (.ok (), c', m')
  | verbatim {c' : Client σ} {m' : Machine σ} (hsize : c.params.size < UInt32.size)
      (hstages : o.stagesOutput = false) (hbuffer : c'.output = none)
      (hspace : c'.params.spaceOut = o.targetSpace)
      (haddr : c'.params.addrOut = o.targetAddr.getD 0)
      (hparams : c'.params = c.params) (hinput : c'.input = c.input)
      (hmemory : m'.memory = m.memory) :
      OutputRow p o c m (.ok (), c', m')

/-- Before the output is staged, nothing but what was configured says where it goes. -/
theorem InputReady.target (h : InputReady p o m c m') :
    c.output = none ∧ c.params.spaceOut = o.targetSpace ∧
      c.params.addrOut = o.targetAddr.getD 0 := by
  obtain ⟨input, params, hin, rfl⟩ := h.phase.inputStaged h.stage
  cases hin with
  | verbatim => exact ⟨rfl, rfl, rfl⟩
  | file => exact ⟨rfl, rfl, rfl⟩

/-- **One of the rows applies to the output.** -/
theorem outputRow_stageOutput (hA : p.allocator.Sound) (h : InputReady p o m c m') :
    OutputRow p o c m' (c.stageOutput p m') := by
  obtain ⟨houtput, hspace, haddr⟩ := h.target
  rcases Nat.lt_or_ge c.params.size UInt32.size with hsize | hsize
  · have hdescriptor : descriptorLength c.params.size = some (UInt32.ofNat c.params.size) :=
      if_pos hsize
    have hserved : c.params.size + o.guardLength ≤ Allocator.largestServed := by
      have hle := o.guardLength_le
      rw [Allocator.largestServed]
      omega
    rw [stageOutput, inStage_eq _ h.stage, h.phase.options, hdescriptor]
    cases hstages : o.stagesOutput with
    | false => exact .verbatim hsize hstages houtput hspace haddr rfl rfl rfl
    | true =>
        simp only [if_true]
        rcases hbuffer : outputBuffer p c.params.size o.guardLength m' with ⟨e | b, m''⟩
        · rcases outputBuffer_error hbuffer with hlarge | ⟨fault, halloc, rfl⟩
          · rw [Allocator.largestServed] at hserved
            simp only [UInt64.size, UInt32.size] at hlarge hserved
            omega
          · have hzero := size_of_refused h.serves hserved halloc
            rw [hzero] at halloc ⊢
            have hempty : m'.memory.allocate p.allocator 0 = .error .empty := if_pos rfl
            cases halloc.symm.trans hempty
            exact .empty hsize hstages hzero
        · obtain ⟨hb, halloc⟩ := outputBuffer_ok hbuffer
          obtain ⟨memory, hgrant, hnoted⟩ := Machine.allocate_ok_spec halloc
          have hpos := Nat.pos_of_ne_zero (HostMemory.allocate_eq_ok_iff.1 hgrant).1
          have hheld := holding_of_outputBuffer hA h.holding hbuffer
          have hzeros : m''.memory.contents? b = some (.zeros (c.params.size + o.guardLength)) := by
            rw [hnoted.memory]
            exact HostMemory.contents?_allocate_self hgrant
          have hholds := HostBuffer.holds_of_mem hheld.sound (hheld.mem_live (by simp)) hzeros
          rw [Bytes.toList_zeros] at hholds
          refine .staged hsize hstages hpos rfl hholds rfl rfl ?_
          -- The new buffer is apart from that of the input, which keeps what it holds.
          rintro b' bytes hb' ⟨haligned, hlen, d, hd, hbytes⟩
          have hlive := h.holding.mem_live (mem_buffers_of_input hb')
          have hne := HostMemory.addr_ne_of_allocate hA h.holding.sound hgrant hlive
          refine ⟨haligned, hlen, d, ?_, hbytes⟩
          rw [hnoted.memory, Machine.memory_recording,
            HostMemory.contents?_allocate_of_ne hgrant hne, hd]
  · have hdescriptor : descriptorLength c.params.size = none :=
      (descriptorLength_eq_none_iff _).2 hsize
    have hrefused (q : Platform σ) :
        c.stageOutput q m' = c.fail (.argument (.oversized c.params.size)) m' := by
      rw [stageOutput, inStage_eq _ h.stage, hdescriptor]
    rw [hrefused p]
    exact .oversized hsize fun q => (hrefused q).trans (hrefused p).symm

/-- The size is refused exactly if no job can carry it. -/
theorem OutputRow.argument_iff {t : Turn σ Unit} (h : OutputRow p o c m t) :
    (∃ fault, t.1 = .error (.argument fault)) ↔ UInt32.size ≤ c.params.size := by
  cases h with
  | oversized hsize _ => exact iff_of_true ⟨_, rfl⟩ hsize
  | empty hsize | staged hsize | verbatim hsize =>
      refine iff_of_false ?_ (Nat.not_le.2 hsize)
      rintro ⟨fault, hfault⟩
      cases hfault

/-- The buffer is refused exactly if it is to have no bytes. -/
theorem OutputRow.allocating_iff {t : Turn σ Unit} (h : OutputRow p o c m t) :
    (∃ size fault, t.1 = .error (.allocating size fault)) ↔
      c.params.size < UInt32.size ∧ o.stagesOutput = true ∧
        c.params.size + (if o.verify then 1024 else 0) = 0 := by
  cases h with
  | empty hsize hstages hzero => exact iff_of_true ⟨_, _, rfl⟩ ⟨hsize, hstages, hzero⟩
  | oversized hsize =>
      refine iff_of_false ?_ fun h => Nat.not_lt.2 hsize h.1
      rintro ⟨size, fault, hfault⟩
      cases hfault
  | staged _ _ hpos =>
      refine iff_of_false ?_ fun h => Nat.ne_of_gt hpos h.2.2
      rintro ⟨size, fault, hfault⟩
      cases hfault
  | verbatim _ hstages =>
      refine iff_of_false ?_ fun h => by cases hstages.symm.trans h.2.1
      rintro ⟨size, fault, hfault⟩
      cases hfault

/-- **Staging is what the table says.**  Before any card is opened or any file written, the faults
of the input come in their order, then those of the output; and what is staged is the whole file and
zeros, or what was configured. -/
theorem staging_exact (hA : p.allocator.Sound) (hm : m.memory.Sound)
    (hserves : p.allocator.Serves 2 m.memory.granted m.memory.live) (o : Options) :
    let first := (fresh o).stageInput p m
    let second := first.2.1.stageOutput p first.2.2
    let n := first.2.1.params.size
    let guard := if o.verify then 1024 else 0
    InputRow o m first ∧ BuffersOnly m second.2.2 ∧
      ((∃ path cause, first.1 = .error (.reading path cause)) ↔
        ∃ path d, o.input = some path ∧ m.files.fileAt? path = some d ∧ 0 < d.size ∧
          d.size < UInt32.size ∧ ¬m.files.Readable path) ∧
      (first.1 = .ok () → OutputRow p o first.2.1 first.2.2 second ∧
        ((∃ fault, second.1 = .error (.argument fault)) ↔ UInt32.size ≤ n) ∧
        ((∃ size fault, second.1 = .error (.allocating size fault)) ↔
          n < UInt32.size ∧ o.stagesOutput = true ∧ n + guard = 0)) := by
  intro first second n guard
  have hinput := inputRow_stageInput hA hm hserves o
  refine ⟨hinput, buffersOnly_staging o m, hinput.reading_iff, fun hok => ?_⟩
  rcases stageInput_cases hA hm hserves o with ⟨c, m', heq, -, hready⟩ | ⟨e, c, m', heq, -⟩
  · have hrow : OutputRow p o first.2.1 first.2.2 second := by
      simp only [first, second, heq]
      exact outputRow_stageOutput hA hready
    exact ⟨hrow, hrow.argument_iff, hrow.allocating_iff⟩
  · simp only [first, heq] at hok
    cases hok

/-- No bytes to work on, but a guard to compare: the output is a buffer of the guard alone.  And an
input file that may not be read: its size is found, a buffer is taken, and then given back. -/
theorem staging_exact_corners :
    let p := Program.platform .slots 0
    let o : Options := { Options.standard Device.software with size := some 0, verify := true }
    let m := Program.start { entries := [], workDir := [] }
    let first := (fresh o).stageInput p m
    let second := first.2.1.stageOutput p first.2.2
    let shut : FileTree := { entries := [([[97]], .file (.ofList [65]))], workDir := [] }
    let o' : Options := { o with input := some ⟨[97]⟩ }
    let m' := Program.start (shut.restrict [[97]] { Access.full with read := false })
    let third := (fresh o').stageInput p m'
    (InputRow o m first ∧ OutputRow p o first.2.1 first.2.2 second ∧ first.2.1.params.size = 0 ∧
      second.2.1.output.map (·.size) = some 1024) ∧
      (∃ path cause, third.1 = .error (.reading path cause)) ∧
      third.2.2.events = [.allocated ⟨0x200000000000, 1⟩, .freed ⟨0x200000000000, 1⟩] := by
  intro p o m first second shut o' m' third
  obtain ⟨hinput, -, -, houtput⟩ := staging_exact (p := p) (m := m) Allocator.sound_slots
    HostMemory.sound_empty Allocator.serves_slots o
  obtain ⟨-, -, hreading, -⟩ := staging_exact (p := p) (m := m') Allocator.sound_slots
    HostMemory.sound_empty Allocator.serves_slots o'
  have hresolve : m'.files.resolve false ⟨[97]⟩ = .ok ⟨[[97]], some (.file (.ofList [65]))⟩ := rfl
  have hshut : ¬m'.files.Readable ⟨[97]⟩ := fun hmay =>
    Bool.false_ne_true ((FileTree.readable_iff hresolve).1 hmay)
  refine ⟨⟨hinput, (houtput rfl).1, rfl, by decide +kernel⟩, hreading.2 ?_, by decide +kernel⟩
  exact ⟨⟨[97]⟩, .ofList [65], rfl, rfl, by decide, by decide, hshut⟩

end Client

end Offload
