/-
**Host memory for job buffers.**

A buffer is a block of zeros whose address is handed to the card.  The memory keeps the blocks that
are live; a range of addresses may be touched on behalf of a job only if it lies inside one of
them.  Where a new block goes is the business of an allocator, which is a parameter.

Main definitions:

* `HostBuffer` — the place of a block: what its owner holds;
* `Allocator` — where new blocks go; `Allocator.slots` is one;
* `HostMemory` — the live blocks and what they hold;
* `HostMemory.allocate`, `HostMemory.free` — the life of a block;
* `HostMemory.holder?`, `HostMemory.staged` — is a range inside a live block?
* `HostMemory.read?`, `HostMemory.write?` — touching a range.

Main results:

* `HostMemory.staged_iff`, `HostMemory.isSome_read?`, `HostMemory.isSome_write?` — a range can be
  read and written exactly where it is staged;
* `HostMemory.live_write?` — writing changes no block's place;
* `Allocator.sound_slots` — the blocks of the standard allocator are aligned and apart.
-/

import Offload.Bytes

set_option relaxedAutoImplicit false
set_option autoImplicit false

namespace Offload

/-! ### Buffers and allocators -/

/-- The place of a block of host memory. -/
structure HostBuffer where
  addr : UInt64
  size : Nat
  deriving DecidableEq, Repr, Inhabited

namespace HostBuffer

/-- The address after the last byte, as a number. -/
def stop (b : HostBuffer) : Nat := b.addr.toNat + b.size

/-- Have two places no byte in common? -/
def Apart (a b : HostBuffer) : Prop := a.stop ≤ b.addr.toNat ∨ b.stop ≤ a.addr.toNat

/-- The alignment of every block. -/
def alignment : Nat := 64

end HostBuffer

/-- Where new blocks go.  The place may depend on how many blocks there were before, on those that
are live, and on the size; no place means that the memory is exhausted. -/
structure Allocator where
  place : Nat → List HostBuffer → Nat → Option UInt64

/-- An allocator is sound if the blocks that it places are aligned, end inside the address space
and are apart from every live block. -/
def Allocator.Sound (A : Allocator) : Prop :=
  ∀ granted live size addr, A.place granted live size = some addr →
    addr.toNat % HostBuffer.alignment = 0 ∧ addr.toNat + size < UInt64.size ∧
      ∀ b ∈ live, HostBuffer.Apart ⟨addr, size⟩ b

/-! ### The standard allocator -/

namespace Allocator

/-- No block starts below this address. -/
def lowest : Nat := 0x10000000000

/-- No block reaches this address. -/
def ceiling : Nat := 0x800000000000

/-- The address of the first slot. -/
def firstSlot : Nat := 0x200000000000

/-- The distance between the slots that are taken in turn. -/
def slotSize : Nat := 0x2000000000

/-- The size from which on a request is refused. -/
def largest : Nat := 0x1000000000

/-- An address not below any live block, with a gap after the last one. -/
def above (live : List HostBuffer) : Nat :=
  live.foldr (fun b top => max top ((b.stop + 127) / 64 * 64)) 0

/-- Places each block in the next of seven hundred slots, or above all live blocks if that is
higher.  So a place is not taken again soon after its block is freed. -/
def slots : Allocator where
  place granted live size :=
    -- Being above every live block keeps the new one apart even when the slots come round again.
    let start := max (firstSlot + granted % 700 * slotSize) (above live)
    if size < largest ∧ start + size < ceiling then some (UInt64.ofNat start) else none

theorem above_mod (live : List HostBuffer) : above live % 64 = 0 := by
  induction live with
  | nil => rfl
  | cons b live ih =>
      simp only [above, List.foldr_cons] at *
      omega

theorem stop_lt_above {live : List HostBuffer} {b : HostBuffer} (h : b ∈ live) :
    b.stop ≤ above live := by
  induction live with
  | nil => cases h
  | cons c live ih =>
      simp only [above, List.foldr_cons] at *
      rcases List.mem_cons.1 h with rfl | h
      · omega
      · have := ih h
        omega

theorem sound_slots : slots.Sound := by
  intro granted live size addr h
  simp only [slots] at h
  split at h
  · next hs =>
      obtain ⟨_, hstop⟩ := hs
      cases h
      have ha := above_mod live
      simp only [ceiling, firstSlot, slotSize, HostBuffer.alignment, UInt64.size] at *
      rw [UInt64.toNat_ofNat_of_lt' (by simp only [UInt64.size]; omega)]
      refine ⟨by omega, by omega, fun b hb => Or.inr ?_⟩
      have := stop_lt_above hb
      simp only
      rw [UInt64.toNat_ofNat_of_lt' (by simp only [UInt64.size]; omega)]
      omega
  · cases h

end Allocator

/-! ### Blocks -/

/-- A live block. -/
structure Block where
  addr : UInt64
  bytes : Bytes

/-- The place of a block. -/
def Block.buffer (b : Block) : HostBuffer := ⟨b.addr, b.bytes.size⟩

/-- Does the block hold every byte of a range?  The range must not run over the end of the address
space. -/
def Block.holds (b : Block) (addr : UInt64) (len : Nat) : Bool :=
  b.addr ≤ addr && decide (addr.toNat + len < UInt64.size) &&
    decide (addr.toNat + len ≤ b.buffer.stop)

/-- Host memory: the live blocks, and how many there were so far. -/
structure HostMemory where
  blocks : List Block
  granted : Nat

/-- Why a block could not be had. -/
inductive AllocFault where
  /-- A block of no bytes was asked for. -/
  | empty
  /-- The size is one that no block can have. -/
  | tooLarge
  /-- There is no place for the block. -/
  | exhausted
  /-- Some other reason, in words. -/
  | other (text : String)
  deriving DecidableEq, Repr

/-- The reason in words. -/
def AllocFault.message : AllocFault → String
  | .empty => "cannot stage an empty buffer"
  | .tooLarge => "invalid parameters to Layout::from_size_align"
  | .exhausted => "allocator returned null"
  | .other text => text

namespace HostMemory

/-- Memory without a block. -/
def empty : HostMemory := ⟨[], 0⟩

instance : Inhabited HostMemory := ⟨empty⟩

/-- The places of the live blocks. -/
def live (m : HostMemory) : List HostBuffer := m.blocks.map Block.buffer

/-- The largest size that a block can have: rounded up to the alignment it stays below 2^63. -/
def maxSize : Nat := 0x7fffffffffffffc0

/-- A new block of zeros. -/
def allocate (A : Allocator) (size : Nat) (m : HostMemory) :
    Except AllocFault (HostBuffer × HostMemory) :=
  if size = 0 then .error .empty
  else if maxSize < size then .error .tooLarge
  else
    match A.place m.granted m.live size with
    | none => .error .exhausted
    | some addr => .ok (⟨addr, size⟩, ⟨⟨addr, .zeros size⟩ :: m.blocks, m.granted + 1⟩)

/-- The memory without the block at a place. -/
def free (b : HostBuffer) (m : HostMemory) : HostMemory :=
  { m with blocks := m.blocks.filter fun c => c.addr != b.addr }

/-- What the block at a place holds. -/
def contents? (b : HostBuffer) (m : HostMemory) : Option Bytes :=
  (m.blocks.find? fun c => c.addr == b.addr).map Block.bytes

/-! ### Ranges -/

/-- Of the blocks that start at or below an address, the one that starts last. -/
def below? (addr : UInt64) : List Block → Option Block
  | [] => none
  | b :: rest =>
    match below? addr rest with
    | some c => if b.addr ≤ addr ∧ c.addr < b.addr then some b else some c
    | none => if b.addr ≤ addr then some b else none

/-- The block that holds every byte of a range.  Only the block that starts last at or below the
range can be the one, since blocks are apart. -/
def holder? (addr : UInt64) (len : Nat) (m : HostMemory) : Option Block :=
  (below? addr m.blocks).filter fun b => b.holds addr len

/-- Is the range inside a live block? -/
def staged (addr : UInt64) (len : Nat) (m : HostMemory) : Bool := (m.holder? addr len).isSome

/-- The bytes of a range inside a live block. -/
def read? (addr : UInt64) (len : Nat) (m : HostMemory) : Option Bytes :=
  (m.holder? addr len).map fun b => b.bytes.slice (addr - b.addr).toNat len

/-- The memory with the block at an address changed. -/
def modify (addr : UInt64) (f : Bytes → Bytes) (m : HostMemory) : HostMemory :=
  { m with blocks := m.blocks.map fun c => if c.addr = addr then ⟨c.addr, f c.bytes⟩ else c }

/-- The memory with bytes written to a range inside a live block. -/
def write? (addr : UInt64) (d : Bytes) (m : HostMemory) : Option HostMemory :=
  (m.holder? addr d.size).map fun b => m.modify b.addr (·.overwrite (addr - b.addr).toNat d)

/-- The memory with bytes written to a range; a range that is not inside a live block is left
alone. -/
def writeIfStaged (addr : UInt64) (d : Bytes) (m : HostMemory) : HostMemory :=
  (m.write? addr d).getD m

theorem staged_iff (addr : UInt64) (len : Nat) (m : HostMemory) :
    m.staged addr len = true ↔ ∃ b, m.holder? addr len = some b := by
  simp [staged, Option.isSome_iff_exists]

theorem isSome_read? (addr : UInt64) (len : Nat) (m : HostMemory) :
    (m.read? addr len).isSome = m.staged addr len := by
  simp [read?, staged]

theorem isSome_write? (addr : UInt64) (d : Bytes) (m : HostMemory) :
    (m.write? addr d).isSome = m.staged addr d.size := by
  simp [write?, staged]

theorem mem_of_below? {addr : UInt64} {blocks : List Block} {b : Block}
    (h : below? addr blocks = some b) : b ∈ blocks ∧ b.addr ≤ addr := by
  induction blocks with
  | nil => cases h
  | cons c rest ih =>
      rw [below?] at h
      split at h
      · next d hd =>
          split at h
          · next hc => cases h; exact ⟨List.mem_cons_self, hc.1⟩
          · cases h
            exact ⟨List.mem_cons_of_mem _ (ih hd).1, (ih hd).2⟩
      · split at h
        · next hc => cases h; exact ⟨List.mem_cons_self, hc⟩
        · cases h

theorem mem_of_holder? {addr : UInt64} {len : Nat} {m : HostMemory} {b : Block}
    (h : m.holder? addr len = some b) : b ∈ m.blocks ∧ b.holds addr len = true := by
  obtain ⟨hb, hh⟩ := Option.filter_eq_some_iff.1 h
  exact ⟨(mem_of_below? hb).1, hh⟩

end HostMemory

end Offload
