/-
**The live buffers of host memory.**

Host memory keeps a block for every live buffer, and whether a job may touch a range is decided by
looking at a single block: the one that starts last at or below the range.  That this is enough
rests on what the allocator promises and on what every operation keeps: blocks are aligned, hold at
least one byte, end inside the address space, and have no byte in common.

Main definitions:

* `HostBuffer.Placed` — the place of one buffer is as the allocator promises;
* `HostMemory.Sound` — all live buffers are so placed and apart from one another;
* `HostMemory.registered?` — the size of the live buffer at an address.

Main results:

* `HostMemory.live_allocate`, `HostMemory.live_free_perm`, `HostMemory.live_writeIfStaged` — what
  the operations do to the list of live buffers;
* `HostMemory.sound_allocate`, `HostMemory.sound_free`, `HostMemory.sound_writeIfStaged` —
  **every operation keeps the memory sound**;
* `HostMemory.registered?_eq_some_iff` — an address is registered with a size exactly when they are
  the place of a live buffer;
* `HostMemory.staged_iff_exists` — **a range is staged exactly when one live buffer holds all of
  it**.
-/

import Offload.Memory.Host
import Mathlib.Data.List.Pairwise

set_option relaxedAutoImplicit false
set_option autoImplicit false

namespace Offload

/-! ### Places -/

namespace HostBuffer

/-- The place of a buffer is as the allocator promises: aligned, not empty, and inside the address
space. -/
structure Placed (b : HostBuffer) : Prop where
  aligned : b.addr.toNat % alignment = 0
  nonempty : 0 < b.size
  inside : b.stop < UInt64.size

theorem Apart.symm {a b : HostBuffer} (h : Apart a b) : Apart b a := Or.symm h

instance : Std.Symm Apart := ⟨fun _ _ => Apart.symm⟩

/-- Buffers that are apart start at different addresses, unless one of them is empty. -/
theorem addr_ne_of_apart {a b : HostBuffer} (ha : 0 < a.size) (hb : 0 < b.size)
    (h : Apart a b) : a.addr ≠ b.addr := by
  intro he
  simp only [Apart, stop, he] at h
  omega

end HostBuffer

open HostBuffer (Placed Apart)

/-- A place that a sound allocator gives is one that it promises. -/
theorem Allocator.Sound.placed {A : Allocator} (hA : A.Sound) {granted size : Nat}
    {live : List HostBuffer} {addr : UInt64} (h : A.place granted live size = some addr)
    (hsize : 0 < size) : Placed ⟨addr, size⟩ := by
  obtain ⟨haligned, hinside, -⟩ := hA granted live size addr h
  exact ⟨haligned, hsize, hinside⟩

namespace HostMemory

variable {A : Allocator} {m m' : HostMemory} {b c : HostBuffer} {addr : UInt64}
  {size len : Nat} {d : Bytes}

/-- All live buffers are placed as the allocator promises, and no two have a byte in common. -/
structure Sound (m : HostMemory) : Prop where
  placed : ∀ b ∈ m.live, Placed b
  apart : m.live.Pairwise Apart

theorem Sound.of_live_eq (hm : m.Sound) (h : m'.live = m.live) : m'.Sound :=
  ⟨by rw [h]; exact hm.placed, by rw [h]; exact hm.apart⟩

@[simp] theorem live_empty : empty.live = [] := rfl

theorem sound_empty : empty.Sound := ⟨by simp, by simp⟩

theorem mem_live_of_mem {b : Block} (h : b ∈ m.blocks) : b.buffer ∈ m.live :=
  List.mem_map_of_mem h

/-- The start of a live buffer tells which one it is. -/
theorem Sound.eq_of_addr_eq (hm : m.Sound) (hb : b ∈ m.live) (hc : c ∈ m.live)
    (h : b.addr = c.addr) : b = c := by
  by_contra hne
  have hapart : Apart b c := hm.apart.forall hb hc hne
  exact HostBuffer.addr_ne_of_apart (hm.placed b hb).nonempty (hm.placed c hc).nonempty hapart h

theorem Sound.nodup_live (hm : m.Sound) : m.live.Nodup := by
  refine List.Pairwise.imp_of_mem ?_ hm.apart
  rintro b c hb hc hapart rfl
  exact HostBuffer.addr_ne_of_apart (hm.placed b hb).nonempty (hm.placed b hb).nonempty hapart rfl

/-- The size of the block at an address, if there is one. -/
def registered? (addr : UInt64) (m : HostMemory) : Option Nat :=
  (m.blocks.find? fun c => c.addr == addr).map fun c => c.bytes.size

theorem registered?_eq_some_iff (hm : m.Sound) :
    m.registered? addr = some size ↔ ⟨addr, size⟩ ∈ m.live := by
  rw [registered?, Option.map_eq_some_iff]
  constructor
  · rintro ⟨c, hc, rfl⟩
    have haddr : c.addr = addr := by simpa using List.find?_some hc
    rw [← haddr]
    exact mem_live_of_mem (List.mem_of_find?_eq_some hc)
  · intro hb
    obtain ⟨b, hmem, hbuffer⟩ := List.mem_map.1 hb
    have hfound : (m.blocks.find? fun c => c.addr == addr).isSome := by
      rw [List.find?_isSome]
      exact ⟨b, hmem, by simpa [Block.buffer] using congrArg HostBuffer.addr hbuffer⟩
    obtain ⟨c, hc⟩ := Option.isSome_iff_exists.1 hfound
    have haddr : c.addr = addr := by simpa using List.find?_some hc
    have hsame : c.buffer = ⟨addr, size⟩ :=
      hm.eq_of_addr_eq (mem_live_of_mem (List.mem_of_find?_eq_some hc)) hb haddr
    exact ⟨c, hc, congrArg HostBuffer.size hsame⟩

/-- What is registered depends on the live buffers only. -/
theorem registered?_congr (hm : m.Sound) (hm' : m'.Sound) (h : m'.live.Perm m.live)
    (addr : UInt64) : m'.registered? addr = m.registered? addr := by
  refine Option.ext fun size => ?_
  rw [registered?_eq_some_iff hm, registered?_eq_some_iff hm']
  exact h.mem_iff

/-! ### Taking a block -/

/-- **When a block is granted**, and what the memory is then. -/
theorem allocate_eq_ok_iff :
    m.allocate A size = .ok (b, m') ↔
      size ≠ 0 ∧ size ≤ maxSize ∧ A.place m.granted m.live size = some b.addr ∧ b.size = size ∧
        m' = ⟨⟨b.addr, .zeros size⟩ :: m.blocks, m.granted + 1⟩ := by
  obtain ⟨addr, len⟩ := b
  rw [allocate]
  by_cases h0 : size = 0
  · simp [h0]
  · by_cases hmax : maxSize < size
    · simp [h0, hmax, Nat.not_le.2 hmax]
    · rw [if_neg h0, if_neg hmax]
      cases hplace : A.place m.granted m.live size with
      | none => simp
      | some a =>
          simp only [Except.ok.injEq, Prod.mk.injEq, HostBuffer.mk.injEq, Option.some.injEq]
          constructor
          · rintro ⟨⟨rfl, rfl⟩, rfl⟩
            exact ⟨h0, Nat.le_of_not_lt hmax, rfl, rfl, rfl⟩
          · rintro ⟨-, -, rfl, rfl, rfl⟩
            exact ⟨⟨rfl, rfl⟩, rfl⟩

/-- **When a block is refused**: none of no bytes is granted, none that is too large, and none
that the allocator has no place for. -/
theorem allocate_eq_error_iff :
    (∃ fault, m.allocate A size = .error fault) ↔
      size = 0 ∨ maxSize < size ∨ A.place m.granted m.live size = none := by
  rw [allocate]
  by_cases h0 : size = 0
  · simp [h0]
  · by_cases hmax : maxSize < size
    · simp [h0, hmax]
    · rw [if_neg h0, if_neg hmax]
      cases A.place m.granted m.live size <;> simp [h0, hmax]

/-- A granted block is a new live buffer. -/
theorem live_allocate (h : m.allocate A size = .ok (b, m')) : m'.live = b :: m.live := by
  obtain ⟨-, -, -, rfl, rfl⟩ := allocate_eq_ok_iff.1 h
  simp [live, Block.buffer]

theorem size_of_allocate (h : m.allocate A size = .ok (b, m')) : b.size = size :=
  (allocate_eq_ok_iff.1 h).2.2.2.1

theorem sound_allocate (hA : A.Sound) (h : m.allocate A size = .ok (b, m')) (hm : m.Sound) :
    m'.Sound := by
  obtain ⟨h0, -, hplace, hsize, -⟩ := allocate_eq_ok_iff.1 h
  have hb : b = ⟨b.addr, size⟩ := by rw [← hsize]
  constructor
  · intro c hc
    rw [live_allocate h] at hc
    rcases List.mem_cons.1 hc with rfl | hc
    · rw [hb]
      exact hA.placed hplace (Nat.pos_of_ne_zero h0)
    · exact hm.placed c hc
  · rw [live_allocate h]
    refine List.pairwise_cons.2 ⟨?_, hm.apart⟩
    intro c hc
    rw [hb]
    exact (hA _ _ _ _ hplace).2.2 c hc

/-! ### Giving a block back -/

theorem live_free (b : HostBuffer) (m : HostMemory) :
    (m.free b).live = m.live.filter fun c => c.addr != b.addr := by
  simp only [live, free, List.filter_map]
  rfl

theorem sound_free (b : HostBuffer) (hm : m.Sound) : (m.free b).Sound := by
  constructor
  · intro c hc
    rw [live_free] at hc
    exact hm.placed c (List.mem_filter.1 hc).1
  · rw [live_free]
    exact hm.apart.filter _

/-- **Freeing a live buffer removes it and nothing else.** -/
theorem live_free_perm {rest : List HostBuffer} (hm : m.Sound) (h : m.live.Perm (b :: rest)) :
    (m.free b).live.Perm rest := by
  rw [live_free]
  have hnodup : (b :: rest).Nodup := h.nodup_iff.1 hm.nodup_live
  have hrest : ∀ c ∈ rest, (c.addr != b.addr) = true := by
    intro c hc
    rw [bne_iff_ne]
    intro he
    have hb : b ∈ m.live := h.mem_iff.2 List.mem_cons_self
    have hc' : c ∈ m.live := h.mem_iff.2 (List.mem_cons_of_mem _ hc)
    exact (List.nodup_cons.1 hnodup).1 (hm.eq_of_addr_eq hc' hb he ▸ hc)
  have hfilter : (b :: rest).filter (fun c => c.addr != b.addr) = rest := by
    rw [List.filter_cons_of_neg (by simp), List.filter_eq_self.2 hrest]
  exact hfilter ▸ h.filter _

/-! ### Changing what blocks hold -/

/-- A change that keeps the length of the block at an address changes no buffer's place. -/
theorem live_modify {f : Bytes → Bytes}
    (h : ∀ c ∈ m.blocks, c.addr = addr → (f c.bytes).size = c.bytes.size) :
    (m.modify addr f).live = m.live := by
  simp only [live, modify, List.map_map]
  refine List.map_congr_left ?_
  intro c hc
  by_cases he : c.addr = addr
  · simp [Function.comp, he, Block.buffer, h c hc he]
  · simp [Function.comp, he]

/-- The offset of an address in a block that starts at or below it. -/
theorem toNat_sub_addr {b : Block} (h : b.addr ≤ addr) :
    (addr - b.addr).toNat = addr.toNat - b.addr.toNat :=
  UInt64.toNat_sub_of_le _ _ h

theorem holds_iff {b : Block} :
    b.holds addr len = true ↔
      b.addr.toNat ≤ addr.toNat ∧ addr.toNat + len < UInt64.size ∧
        addr.toNat + len ≤ b.buffer.stop := by
  simp [Block.holds, UInt64.le_iff_toNat_le, and_assoc]

theorem live_write? (hm : m.Sound) (h : m.write? addr d = some m') : m'.live = m.live := by
  obtain ⟨b, hholder, rfl⟩ := Option.map_eq_some_iff.1 h
  obtain ⟨hb, hholds⟩ := mem_of_holder? hholder
  obtain ⟨hle, -, hstop⟩ := holds_iff.1 hholds
  refine live_modify ?_
  intro c hc he
  have hbc : c.buffer = b.buffer :=
    hm.eq_of_addr_eq (mem_live_of_mem hc) (mem_live_of_mem hb) he
  have hsize : c.bytes.size = b.bytes.size := congrArg HostBuffer.size hbc
  refine Bytes.size_overwrite ?_
  rw [toNat_sub_addr (UInt64.le_iff_toNat_le.2 hle), hsize]
  simp only [HostBuffer.stop, Block.buffer] at hstop
  omega

theorem live_writeIfStaged (hm : m.Sound) : (m.writeIfStaged addr d).live = m.live := by
  rw [writeIfStaged]
  cases h : m.write? addr d with
  | none => rfl
  | some m' => exact live_write? hm h

theorem sound_writeIfStaged (hm : m.Sound) : (m.writeIfStaged addr d).Sound :=
  hm.of_live_eq (live_writeIfStaged hm)

/-! ### Ranges -/

/-- If nothing is found at or below an address, every block starts above it. -/
theorem lt_addr_of_below?_eq_none {blocks : List Block} (h : below? addr blocks = none) :
    ∀ c ∈ blocks, ¬ c.addr ≤ addr := by
  induction blocks with
  | nil => simp
  | cons b rest ih =>
      rw [below?] at h
      cases hr : below? addr rest with
      | some c =>
          rw [hr] at h
          simp only at h
          split at h <;> cases h
      | none =>
          rw [hr] at h
          simp only [ite_eq_right_iff, reduceCtorEq, imp_false] at h
          intro c hc
          rcases List.mem_cons.1 hc with rfl | hc
          · exact h
          · exact ih hr c hc

/-- No block at or below an address starts after the one that is found. -/
theorem le_of_below?_eq_some {blocks : List Block} {b : Block} (h : below? addr blocks = some b) :
    ∀ c ∈ blocks, c.addr ≤ addr → c.addr ≤ b.addr := by
  -- The block that the rest finds is replaced by the first one only if that starts above it.
  induction blocks generalizing b with
  | nil => cases h
  | cons a rest ih =>
      intro c hc hle
      rw [below?] at h
      cases hr : below? addr rest with
      | none =>
          simp only [hr] at h
          split at h
          · cases h
            rcases List.mem_cons.1 hc with rfl | hc
            · exact UInt64.le_refl _
            · exact absurd hle (lt_addr_of_below?_eq_none hr c hc)
          · cases h
      | some r =>
          have hrest : ∀ c ∈ rest, c.addr ≤ addr → c.addr ≤ r.addr := ih hr
          simp only [hr] at h
          split at h
          · next hlt =>
              cases h
              rcases List.mem_cons.1 hc with rfl | hc
              · exact UInt64.le_refl _
              · exact UInt64.le_trans (hrest c hc hle) (UInt64.le_of_lt hlt.2)
          · next hlt =>
              cases h
              rcases List.mem_cons.1 hc with rfl | hc
              · rw [not_and] at hlt
                exact UInt64.not_lt.1 (hlt hle)
              · exact hrest c hc hle

/-- **A range is staged exactly when it ends inside the address space and one live buffer holds all
of it.**  Only one block is looked at; a second one that held the range would have to share a byte
with it, unless the range is empty and lies where the second ends and the first starts. -/
theorem staged_iff_exists (hm : m.Sound) :
    m.staged addr len = true ↔
      addr.toNat + len < UInt64.size ∧
        ∃ b ∈ m.live, b.addr.toNat ≤ addr.toNat ∧ addr.toNat + len ≤ b.stop := by
  rw [staged_iff]
  constructor
  · rintro ⟨b, hb⟩
    obtain ⟨hmem, hholds⟩ := mem_of_holder? hb
    obtain ⟨hle, hend, hstop⟩ := holds_iff.1 hholds
    exact ⟨hend, b.buffer, mem_live_of_mem hmem, hle, hstop⟩
  · rintro ⟨hend, c, hc, hle, hstop⟩
    obtain ⟨b, hb, rfl⟩ := List.mem_map.1 hc
    have hble : b.addr ≤ addr := UInt64.le_iff_toNat_le.2 hle
    cases hbelow : below? addr m.blocks with
    | none => exact absurd hble (lt_addr_of_below?_eq_none hbelow b hb)
    | some a =>
        obtain ⟨ha, hale⟩ := mem_of_below? hbelow
        have hba : b.addr ≤ a.addr := le_of_below?_eq_some hbelow b hb hble
        have hba' := UInt64.le_iff_toNat_le.1 hba
        have hale' := UInt64.le_iff_toNat_le.1 hale
        refine ⟨a, Option.filter_eq_some_iff.2 ⟨hbelow, holds_iff.2 ⟨hale', hend, ?_⟩⟩⟩
        by_cases hab : b.buffer = a.buffer
        · rw [← hab]
          exact hstop
        · -- the two blocks are apart, so the range is empty and starts where `a` does
          have hapart := hm.apart.forall (mem_live_of_mem hb) (mem_live_of_mem ha) hab
          have hpos := (hm.placed _ (mem_live_of_mem ha)).nonempty
          simp only [Apart, HostBuffer.stop, Block.buffer] at hapart hstop hpos ⊢
          omega

end HostMemory

end Offload
