/-
**What a buffer holds.**

The bytes of a live buffer are those that its owner or a job put there last.  Here it is followed
through the operations of host memory: a new buffer holds zeros, a change to one buffer is seen in
that buffer and in no other, and a range that starts where a buffer does is a part of that buffer.

Main results:

* `HostMemory.contents?_allocate_self`, `HostMemory.contents?_allocate_of_ne`,
  `HostMemory.contents?_free_of_ne`, `HostMemory.contents?_modify_self`,
  `HostMemory.contents?_modify_of_ne` — **a change is seen at its place and nowhere else**;
* `HostMemory.read?_of_mem`, `HostMemory.write?_of_mem` — reading and writing from the start of a
  live buffer;
* `HostMemory.staged_eq_false` — an address in no live buffer is the start of no staged range.
-/

import Offload.Proofs.Memory.Live
import Mathlib.Data.List.Nodup

set_option relaxedAutoImplicit false
set_option autoImplicit false

namespace Offload

namespace HostMemory

variable {A : Allocator} {m m' : HostMemory} {b c : HostBuffer} {addr : UInt64} {size len : Nat}
  {d : Bytes}

/-! ### Taking and changing -/

/-- A new buffer holds zeros. -/
theorem contents?_allocate_self (h : m.allocate A size = .ok (b, m')) :
    m'.contents? b = some (.zeros size) := by
  obtain ⟨-, -, -, -, rfl⟩ := allocate_eq_ok_iff.1 h
  rw [contents?, List.find?_cons_of_pos (by simp)]
  rfl

theorem contents?_allocate_of_ne (h : m.allocate A size = .ok (b, m')) (hne : c.addr ≠ b.addr) :
    m'.contents? c = m.contents? c := by
  obtain ⟨-, -, -, -, rfl⟩ := allocate_eq_ok_iff.1 h
  rw [contents?, List.find?_cons_of_neg (by simpa using hne.symm)]
  rfl

/-- A new buffer starts where no live one does. -/
theorem addr_ne_of_allocate (hA : A.Sound) (hm : m.Sound) (h : m.allocate A size = .ok (b, m'))
    (hc : c ∈ m.live) : c.addr ≠ b.addr := by
  intro haddr
  have hm' : m'.Sound := sound_allocate hA h hm
  have hlive := live_allocate h
  have hcb : c = b := hm'.eq_of_addr_eq (hlive ▸ List.mem_cons_of_mem b hc)
    (hlive ▸ List.mem_cons_self) haddr
  have hnodup := hlive ▸ hm'.nodup_live
  exact (List.nodup_cons.1 hnodup).1 (hcb ▸ hc)

/-- Why a block was refused. -/
theorem fault_of_allocate {fault : AllocFault} (h : m.allocate A size = .error fault) :
    (size = 0 ∧ fault = .empty) ∨ maxSize < size ∨ fault = .exhausted := by
  rw [allocate] at h
  split at h
  · next hzero =>
      cases h
      exact Or.inl ⟨hzero, rfl⟩
  · split at h
    · next hlarge => exact Or.inr (Or.inl hlarge)
    · split at h
      · cases h
        exact Or.inr (Or.inr rfl)
      · cases h

/-- Freeing a block leaves the others as they are. -/
theorem contents?_free_of_ne (hne : c.addr ≠ b.addr) (m : HostMemory) :
    (m.free b).contents? c = m.contents? c := by
  rw [contents?, contents?, free, List.find?_filter]
  congr 2
  funext x
  by_cases hx : x.addr = c.addr
  · simp [hx, hne]
  · simp [hx]

/-- Looking up a block after a change finds the block that was there, changed if it is the one. -/
theorem contents?_modify (addr : UInt64) (f : Bytes → Bytes) (c : HostBuffer) (m : HostMemory) :
    (m.modify addr f).contents? c =
      (m.contents? c).map fun d => if c.addr = addr then f d else d := by
  rw [contents?, contents?, modify, List.find?_map]
  have hsame : ((fun x : Block => x.addr == c.addr) ∘
      fun x => if x.addr = addr then ⟨x.addr, f x.bytes⟩ else x) = fun x => x.addr == c.addr := by
    funext x
    simp only [Function.comp_apply]
    split <;> rfl
  rw [hsame]
  cases hfound : m.blocks.find? fun x => x.addr == c.addr with
  | none => rfl
  | some x =>
      have haddr : x.addr = c.addr := by simpa using List.find?_some hfound
      simp only [Option.map_some, haddr]
      split <;> rfl

theorem contents?_modify_self (f : Bytes → Bytes) (b : HostBuffer) (m : HostMemory) :
    (m.modify b.addr f).contents? b = (m.contents? b).map f := by
  rw [contents?_modify]
  simp

theorem contents?_modify_of_ne (f : Bytes → Bytes) (hne : c.addr ≠ addr) (m : HostMemory) :
    (m.modify addr f).contents? c = m.contents? c := by
  rw [contents?_modify]
  simp [hne]

/-! ### Ranges at the start of a buffer -/

/-- The start of a block tells which one it is. -/
theorem Sound.block_eq_of_addr_eq (hm : m.Sound) {x y : Block} (hx : x ∈ m.blocks)
    (hy : y ∈ m.blocks) (h : x.addr = y.addr) : x = y := by
  have hbuffer : x.buffer = y.buffer :=
    hm.eq_of_addr_eq (mem_live_of_mem hx) (mem_live_of_mem hy) h
  exact List.inj_on_of_nodup_map hm.nodup_live hx hy hbuffer

/-- A live buffer has one block, which is found at its start and below it. -/
theorem Sound.exists_block (hm : m.Sound) (hb : b ∈ m.live) :
    ∃ x, x.buffer = b ∧ m.contents? b = some x.bytes ∧ below? b.addr m.blocks = some x := by
  obtain ⟨x, hx, rfl⟩ := List.mem_map.1 hb
  refine ⟨x, rfl, ?_, ?_⟩
  · cases hfound : m.blocks.find? fun y => y.addr == x.addr with
    | none => exact absurd (List.find?_eq_none.1 hfound x hx) (by simp)
    | some y =>
        have haddr : y.addr = x.addr := by simpa using List.find?_some hfound
        have hyx := hm.block_eq_of_addr_eq (List.mem_of_find?_eq_some hfound) hx haddr
        rw [contents?, Block.buffer, hfound, hyx]
        rfl
  · cases hbelow : below? x.buffer.addr m.blocks with
    | none => exact absurd (UInt64.le_refl _) (lt_addr_of_below?_eq_none hbelow x hx)
    | some y =>
        obtain ⟨hy, hyx⟩ := mem_of_below? hbelow
        have hxy := le_of_below?_eq_some hbelow x hx (UInt64.le_refl _)
        rw [hm.block_eq_of_addr_eq hy hx (UInt64.le_antisymm hyx hxy)]

theorem Sound.size_of_contents? (hm : m.Sound) (hb : b ∈ m.live) (h : m.contents? b = some d) :
    d.size = b.size := by
  obtain ⟨x, rfl, hcontents, -⟩ := hm.exists_block hb
  rw [h, Option.some_inj] at hcontents
  rw [hcontents]
  rfl

theorem holder?_of_mem (hm : m.Sound) (hb : b ∈ m.live) (hlen : len ≤ b.size) :
    ∃ x, x.buffer = b ∧ m.contents? b = some x.bytes ∧ m.holder? b.addr len = some x := by
  obtain ⟨x, rfl, hcontents, hbelow⟩ := hm.exists_block hb
  have hinside := (hm.placed _ hb).inside
  have hholds : x.holds x.buffer.addr len = true := by
    rw [HostBuffer.stop] at hinside
    rw [holds_iff, HostBuffer.stop]
    refine ⟨Nat.le_refl _, ?_, ?_⟩
    · omega
    · omega
  exact ⟨x, rfl, hcontents, Option.filter_eq_some_iff.2 ⟨hbelow, hholds⟩⟩

/-- A range from the start of a live buffer reads as the first bytes of the buffer. -/
theorem read?_of_mem (hm : m.Sound) (hb : b ∈ m.live) (hlen : len ≤ b.size) :
    m.read? b.addr len = (m.contents? b).map fun d => d.slice 0 len := by
  obtain ⟨x, hx, hcontents, hholder⟩ := holder?_of_mem hm hb hlen
  have haddr : x.addr = b.addr := congrArg HostBuffer.addr hx
  rw [read?, hholder, hcontents, Option.map_some, Option.map_some, haddr, UInt64.sub_self]
  rfl

/-- Bytes that are written from the start of a live buffer take the place of its first bytes. -/
theorem write?_of_mem (hm : m.Sound) (hb : b ∈ m.live) (hd : d.size ≤ b.size) :
    m.write? b.addr d = some (m.modify b.addr (·.overwrite 0 d)) := by
  obtain ⟨x, hx, -, hholder⟩ := holder?_of_mem hm hb hd
  have haddr : x.addr = b.addr := congrArg HostBuffer.addr hx
  rw [write?, hholder, Option.map_some, haddr, UInt64.sub_self]
  rfl

/-- A range that starts neither inside a live buffer nor at the end of one is not staged. -/
theorem staged_eq_false (hm : m.Sound)
    (h : ∀ b ∈ m.live, ¬(b.addr.toNat ≤ addr.toNat ∧ addr.toNat ≤ b.stop)) :
    m.staged addr len = false := by
  rw [Bool.eq_false_iff]
  intro hstaged
  obtain ⟨-, b, hb, hle, hstop⟩ := (staged_iff_exists hm).1 hstaged
  exact h b hb ⟨hle, by omega⟩

end HostMemory

end Offload
