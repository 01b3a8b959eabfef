/-
**What is not a client's own.**

A client shares host memory and files with others.  What it does to its own buffers and to its
output file leaves theirs alone: their buffers hold what they held, and the files differ at one
place at most.

Main definitions:

* `Machine.Spares` — certain buffers hold what they held, and the files differ at one place at most.

Main results:

* `Machine.Holding.addr_ne` — buffers of different owners start at different addresses;
* `Client.spares_teardown`, `Client.spares_loadFile`, `Client.spares_loadFile_error`,
  `Client.spares_outputBuffer` — letting go, loading a file and taking an output buffer spare
  what others own.
-/

import Offload.Proofs.Client.Phases
import Offload.Proofs.Memory.Contents

set_option relaxedAutoImplicit false
set_option autoImplicit false

namespace Offload

variable {σ : Type} {p : Platform σ} {m m' m'' : Machine σ} {place : Location}
  {held others : List HostBuffer} {b b' : HostBuffer}

namespace Machine

/-- Certain buffers hold what they held, and the files differ at one place at most. -/
structure Spares (place : Location) (others : List HostBuffer) (m m' : Machine σ) : Prop where
  workDir : m'.files.workDir = m.files.workDir
  access : m'.files.access = m.files.access
  entry : ∀ l, l ≠ place → m'.files.entryAt? l = m.files.entryAt? l
  contents : ∀ b ∈ others, m'.memory.contents? b = m.memory.contents? b

theorem Spares.of_files_eq (hfiles : m'.files = m.files)
    (hcontents : ∀ b ∈ others, m'.memory.contents? b = m.memory.contents? b) :
    Spares place others m m' :=
  ⟨hfiles ▸ rfl, hfiles ▸ rfl, fun _ _ => hfiles ▸ rfl, hcontents⟩

theorem Spares.of_eq (hfiles : m'.files = m.files) (hmemory : m'.memory = m.memory) :
    Spares place others m m' :=
  .of_files_eq hfiles fun _ _ => hmemory ▸ rfl

theorem Noted.spares (h : Noted m m') : Spares place others m m' := .of_eq h.files h.memory

theorem Spares.trans (h : Spares place others m m') (h' : Spares place others m' m'') :
    Spares place others m m'' :=
  ⟨h'.workDir.trans h.workDir, h'.access.trans h.access,
    fun l hl => (h'.entry l hl).trans (h.entry l hl),
    fun b hb => (h'.contents b hb).trans (h.contents b hb)⟩

theorem Spares.mono {others' : List HostBuffer} (h : Spares place others m m')
    (hsub : ∀ b ∈ others', b ∈ others) : Spares place others' m m' :=
  ⟨h.workDir, h.access, h.entry, fun b hb => h.contents b (hsub b hb)⟩

/-- Buffers of different owners start at different addresses. -/
theorem Holding.addr_ne (h : Holding held others m) (hb : b ∈ held) (hb' : b' ∈ others) :
    b'.addr ≠ b.addr := by
  intro haddr
  have hlive : b' ∈ m.memory.live := h.live.mem_iff.2 (List.mem_append_right _ hb')
  obtain rfl := h.sound.eq_of_addr_eq hlive (h.mem_live hb) haddr
  have hnodup := h.live.nodup_iff.1 h.sound.nodup_live
  exact (List.nodup_append.1 hnodup).2.2 _ hb _ hb' rfl

/-- A buffer that is granted is none of those that are live, which hold what they held. -/
theorem contents?_of_allocate {A : Allocator} {size : Nat} {memory : HostMemory} (hA : A.Sound)
    (hm : m.memory.Sound) (h : m.memory.allocate A size = .ok (b, memory))
    (hb' : b' ∈ m.memory.live) : memory.contents? b' = m.memory.contents? b' :=
  HostMemory.contents?_allocate_of_ne h (HostMemory.addr_ne_of_allocate hA hm h hb')

end Machine

namespace Client

open Machine (Holding Spares)

variable {c : Client σ} {path : Path} {size guard : Nat} {e : Error}

/-! ### Letting go -/

theorem contents?_freeBuffer (what : String) {buffer : Option HostBuffer}
    (h : ∀ b ∈ buffer, b'.addr ≠ b.addr) (m : Machine σ) :
    (freeBuffer what buffer m).memory.contents? b' = m.memory.contents? b' := by
  cases buffer with
  | none => rfl
  | some b => exact HostMemory.contents?_free_of_ne (h b rfl) m.memory

/-- **A teardown spares what others own.** -/
theorem spares_teardown (h : Holding c.buffers others m) :
    Spares place others m (c.teardown m).2 := by
  refine .of_files_eq (files_teardown c m) ?_
  intro b hb
  have hinput : ∀ b' ∈ c.input, b.addr ≠ b'.addr := by
    intro b' hb'
    exact h.addr_ne (List.mem_append_left _ (Option.mem_toList.2 hb')) hb
  have houtput : ∀ b' ∈ c.output, b.addr ≠ b'.addr := by
    intro b' hb'
    exact h.addr_ne (List.mem_append_right _ (Option.mem_toList.2 hb')) hb
  rw [teardown, contents?_freeBuffer "input" hinput, contents?_freeBuffer "output" houtput,
    memory_releaseSession]

/-! ### Taking -/

/-- **A file that is loaded goes into a new buffer**, and what others own is spared. -/
theorem spares_loadFile (hA : p.allocator.Sound) (hm : Holding held others m)
    (h : loadFile p path m = (.ok b, m')) : Spares place others m m' := by
  cases load_loadFile h with
  | @loaded _ memory d _ hsize hlen halloc hread hnoted =>
      refine .of_files_eq hnoted.files ?_
      intro b' hb'
      have hlive : b' ∈ m.memory.live := hm.live.mem_iff.2 (List.mem_append_right _ hb')
      have hne := HostMemory.addr_ne_of_allocate hA hm.sound halloc hlive
      rw [hnoted.memory, Machine.fill, HostMemory.contents?_modify_of_ne _ hne]
      exact Machine.contents?_of_allocate hA hm.sound halloc hlive

theorem spares_loadFile_error (hA : p.allocator.Sound) (hm : Holding held others m)
    (h : loadFile p path m = (.error e, m')) : Spares place others m m' := by
  cases load_loadFile h with
  | unsized hsize hnoted => exact hnoted.spares
  | oversized hsize hlen hnoted => exact hnoted.spares
  | refused hsize hlen halloc hnoted => exact hnoted.spares
  | @unread b memory cause m' hsize hlen halloc hread hnoted =>
      refine .of_files_eq hnoted.files ?_
      intro b' hb'
      have hlive : b' ∈ m.memory.live := hm.live.mem_iff.2 (List.mem_append_right _ hb')
      have hne := HostMemory.addr_ne_of_allocate hA hm.sound halloc hlive
      rw [hnoted.memory]
      exact (HostMemory.contents?_free_of_ne hne memory).trans
        (Machine.contents?_of_allocate hA hm.sound halloc hlive)

theorem spares_outputBuffer (hA : p.allocator.Sound) (hm : Holding held others m)
    (h : outputBuffer p size guard m = (.ok b, m')) : Spares place others m m' := by
  obtain ⟨memory, hgrant, hnoted⟩ := Machine.allocate_ok_spec (outputBuffer_ok h).2
  refine .of_files_eq hnoted.files ?_
  intro b' hb'
  have hlive : b' ∈ m.memory.live := hm.live.mem_iff.2 (List.mem_append_right _ hb')
  rw [hnoted.memory]
  exact Machine.contents?_of_allocate hA hm.sound hgrant hlive

end Client

end Offload
