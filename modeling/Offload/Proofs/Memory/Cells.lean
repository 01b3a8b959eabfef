/-
**Host memory byte by byte.**

Blocks of host memory are found by their addresses, and a job touches ranges that lie anywhere
inside them.  To say what a job leaves alone, host memory is read here as a partial array: at an
address stands a byte of the one live buffer that the address belongs to, or nothing.

Main definitions:

* `Block.at?` — the byte of a block at an address;
* `HostMemory.byteAt?` — the byte of host memory at an address.

Main results:

* `HostMemory.isSome_byteAt?_iff` — there is a byte exactly where a live buffer is;
* `HostMemory.getElem?_read?` — ranges are read off the array;
* `HostMemory.byteAt?_write?` — **a write changes the bytes of its range and no others**.
-/

import Offload.Proofs.Memory.Contents
import Offload.Proofs.Memory.Flat

set_option relaxedAutoImplicit false
set_option autoImplicit false

namespace Offload

open HostBuffer (Apart)

/-! ### Blocks -/

/-- The byte of a block at an address. -/
def Block.at? (b : Block) (a : Nat) : Option UInt8 :=
  if b.addr.toNat ≤ a then b.bytes.toList[a - b.addr.toNat]? else none

theorem Block.isSome_at?_iff {b : Block} {a : Nat} :
    (b.at? a).isSome = true ↔ b.addr.toNat ≤ a ∧ a < b.buffer.stop := by
  rw [at?, HostBuffer.stop]
  split
  · simp only [isSome_getElem?, Bytes.length_toList, buffer]
    omega
  · simp [*]

namespace HostMemory

variable {m m' : HostMemory} {addr : UInt64} {len a i : Nat} {d : Bytes} {x : UInt8}

/-- The byte of host memory at an address. -/
def byteAt? (a : Nat) (m : HostMemory) : Option UInt8 := m.blocks.findSome? (·.at? a)

/-- An address belongs to at most one block. -/
theorem Sound.block_unique (hm : m.Sound) {b c : Block} (hb : b ∈ m.blocks) (hc : c ∈ m.blocks)
    (hba : (b.at? a).isSome = true) (hca : (c.at? a).isSome = true) : b = c := by
  rw [Block.isSome_at?_iff] at hba hca
  refine hm.block_eq_of_addr_eq hb hc ?_
  by_contra hne
  have hbuffers : b.buffer ≠ c.buffer := fun h => hne (congrArg HostBuffer.addr h)
  have hapart : Apart b.buffer c.buffer :=
    hm.apart.forall (mem_live_of_mem hb) (mem_live_of_mem hc) hbuffers
  simp only [Apart, Block.buffer] at hapart hba hca
  omega

theorem byteAt?_eq_some_iff (hm : m.Sound) :
    m.byteAt? a = some x ↔ ∃ b ∈ m.blocks, b.at? a = some x := by
  constructor
  · exact List.exists_of_findSome?_eq_some
  · rintro ⟨b, hb, hx⟩
    cases hfound : m.byteAt? a with
    | none => exact absurd (List.findSome?_eq_none_iff.1 hfound b hb) (by simp [hx])
    | some y =>
        obtain ⟨c, hc, hy⟩ := List.exists_of_findSome?_eq_some hfound
        obtain rfl := hm.block_unique hb hc (by rw [hx]; rfl) (by rw [hy]; rfl)
        exact hy.symm.trans hx

/-- The byte at an address of a block is the one that the block holds there. -/
theorem byteAt?_of_mem (hm : m.Sound) {b : Block} (hb : b ∈ m.blocks)
    (ha : b.addr.toNat ≤ a ∧ a < b.buffer.stop) : m.byteAt? a = b.at? a := by
  obtain ⟨x, hx⟩ := Option.isSome_iff_exists.1 (Block.isSome_at?_iff.2 ha)
  rw [hx]
  exact (byteAt?_eq_some_iff hm).2 ⟨b, hb, hx⟩

/-- There is a byte exactly where a live buffer is. -/
theorem isSome_byteAt?_iff (hm : m.Sound) :
    (m.byteAt? a).isSome = true ↔ ∃ b ∈ m.live, b.addr.toNat ≤ a ∧ a < b.stop := by
  constructor
  · intro h
    obtain ⟨x, hx⟩ := Option.isSome_iff_exists.1 h
    obtain ⟨b, hb, hat⟩ := (byteAt?_eq_some_iff hm).1 hx
    exact ⟨b.buffer, mem_live_of_mem hb, Block.isSome_at?_iff.1 (hat ▸ rfl)⟩
  · rintro ⟨c, hc, ha⟩
    obtain ⟨b, hb, rfl⟩ := List.mem_map.1 hc
    rw [byteAt?_of_mem hm hb ha]
    exact Block.isSome_at?_iff.2 ha

/-! ### Reading -/

/-- The block that holds a range, and where the range lies in it. -/
theorem placed_of_holder? {b : Block} (h : m.holder? addr len = some b) :
    b ∈ m.blocks ∧ b.addr.toNat ≤ addr.toNat ∧ addr.toNat + len ≤ b.buffer.stop ∧
      (addr - b.addr).toNat = addr.toNat - b.addr.toNat := by
  obtain ⟨hb, hholds⟩ := mem_of_holder? h
  obtain ⟨hle, -, hstop⟩ := holds_iff.1 hholds
  exact ⟨hb, hle, hstop, toNat_sub_addr (UInt64.le_iff_toNat_le.2 hle)⟩

theorem size_read? (h : m.read? addr len = some d) : d.size = len := by
  obtain ⟨b, hholder, rfl⟩ := Option.map_eq_some_iff.1 h
  obtain ⟨-, hle, hstop, hoffset⟩ := placed_of_holder? hholder
  rw [Bytes.size_slice, hoffset]
  simp only [HostBuffer.stop, Block.buffer] at hstop
  omega

/-- What is read of a range are the bytes at its addresses. -/
theorem getElem?_read? (hm : m.Sound) (h : m.read? addr len = some d) (hi : i < len) :
    d.toList[i]? = m.byteAt? (addr.toNat + i) := by
  obtain ⟨b, hholder, rfl⟩ := Option.map_eq_some_iff.1 h
  obtain ⟨hb, hle, hstop, hoffset⟩ := placed_of_holder? hholder
  rw [byteAt?_of_mem hm hb (by omega), Block.at?, if_pos (by omega), Bytes.toList_slice,
    List.getElem?_take_of_lt hi, List.getElem?_drop, hoffset]
  congr 1
  omega

/-! ### Writing -/

/-- The byte of a block at an address after bytes were put into the block. -/
theorem at?_overwrite {b : Block} {off : Nat} (hd : off + d.size ≤ b.bytes.size) :
    (⟨b.addr, b.bytes.overwrite off d⟩ : Block).at? a =
      if b.addr.toNat + off ≤ a ∧ a < b.addr.toNat + off + d.size then
        d.toList[a - (b.addr.toNat + off)]?
      else b.at? a := by
  simp only [Block.at?, Bytes.getElem?_overwrite hd]
  by_cases hstart : b.addr.toNat ≤ a
  · rw [if_pos hstart, if_pos hstart]
    by_cases hrange : b.addr.toNat + off ≤ a ∧ a < b.addr.toNat + off + d.size
    · rw [if_pos hrange, if_pos (by omega), Nat.sub_sub]
    · rw [if_neg hrange, if_neg (by omega)]
  · rw [if_neg hstart, if_neg hstart, if_neg (by omega)]

/-- **A write changes the bytes of its range and no others.** -/
theorem byteAt?_write? (hm : m.Sound) (h : m.write? addr d = some m') (a : Nat) :
    m'.byteAt? a =
      if addr.toNat ≤ a ∧ a < addr.toNat + d.size then d.toList[a - addr.toNat]?
      else m.byteAt? a := by
  have hm' : m'.Sound := hm.of_live_eq (live_write? hm h)
  obtain ⟨b, hholder, rfl⟩ := Option.map_eq_some_iff.1 h
  obtain ⟨hb, hle, hstop, hoffset⟩ := placed_of_holder? hholder
  have hsum : b.addr.toNat + (addr.toNat - b.addr.toNat) = addr.toNat := by omega
  have hroom : addr.toNat - b.addr.toNat + d.size ≤ b.bytes.size := by
    simp only [HostBuffer.stop, Block.buffer] at hstop
    omega
  have hat := @at?_overwrite a d b (addr.toNat - b.addr.toNat) hroom
  rw [hsum] at hat
  rw [hoffset] at hm' ⊢
  by_cases hrange : addr.toNat ≤ a ∧ a < addr.toNat + d.size
  · -- Inside the range the changed block is the one that is looked at.
    rw [if_pos hrange] at hat ⊢
    rw [← hat]
    refine byteAt?_of_mem hm' (List.mem_map.2 ⟨b, hb, if_pos rfl⟩) ?_
    rw [← Block.isSome_at?_iff, hat, isSome_getElem?]
    simp only [Bytes.length_toList]
    omega
  · -- Outside of it every block has the byte that it had.
    rw [if_neg hrange] at hat ⊢
    have hsame : ∀ c ∈ m.blocks, Block.at?
        (if c.addr = b.addr then
          ⟨c.addr, c.bytes.overwrite (addr.toNat - b.addr.toNat) d⟩ else c) a = c.at? a := by
      intro c hc
      split
      · next haddr =>
          obtain rfl := hm.block_eq_of_addr_eq hc hb haddr
          exact hat
      · rfl
    refine Option.ext fun x => ?_
    rw [byteAt?_eq_some_iff hm', byteAt?_eq_some_iff hm]
    simp only [modify, List.mem_map, exists_exists_and_eq_and]
    exact exists_congr fun c => and_congr_right fun hc => by rw [hsame c hc]

end HostMemory

end Offload
