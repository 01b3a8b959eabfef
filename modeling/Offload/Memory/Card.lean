/-
**The memory of an emulated card.**

A card has 256 MiB of memory that starts out as zeros.  Only the part up to the highest byte ever
written is kept; what lies behind it reads as zeros.

Main definitions:

* `CardMemory` — the memory of one card;
* `CardMemory.read?`, `CardMemory.write?` — touching a range, refused beyond the end.

Main results:

* `CardMemory.isSome_read?`, `CardMemory.isSome_write?` — a range is accessible exactly when it
  ends within the memory;
* `CardMemory.size_read?` — a read returns as many bytes as were asked for.
-/

import Offload.Bytes

set_option relaxedAutoImplicit false
set_option autoImplicit false

namespace Offload

/-- The memory of a card: the part up to the highest byte ever written. -/
structure CardMemory where
  written : Bytes
  deriving Inhabited

namespace CardMemory

/-- The size of the memory. -/
def limit : Nat := 256 * 1024 * 1024

/-- Memory to which nothing was ever written. -/
def fresh : CardMemory := ⟨.empty⟩

/-- The bytes of a range. -/
def read? (addr : UInt64) (len : Nat) (m : CardMemory) : Option Bytes :=
  if addr.toNat + len ≤ limit then
    let kept := m.written.slice addr.toNat len
    some (kept ++ .zeros (len - kept.size))
  else none

/-- The written part, extended with zeros to a length if it is shorter. -/
def grown (stop : Nat) (m : CardMemory) : Bytes :=
  if m.written.size < stop then m.written ++ .zeros (stop - m.written.size) else m.written

/-- The memory with bytes written to a range. -/
def write? (addr : UInt64) (d : Bytes) (m : CardMemory) : Option CardMemory :=
  if addr.toNat + d.size ≤ limit then
    some ⟨(m.grown (addr.toNat + d.size)).overwrite addr.toNat d⟩
  else none

theorem isSome_read? (addr : UInt64) (len : Nat) (m : CardMemory) :
    (m.read? addr len).isSome = true ↔ addr.toNat + len ≤ limit := by
  by_cases h : addr.toNat + len ≤ limit <;> simp [read?, h]

theorem isSome_write? (addr : UInt64) (d : Bytes) (m : CardMemory) :
    (m.write? addr d).isSome = true ↔ addr.toNat + d.size ≤ limit := by
  by_cases h : addr.toNat + d.size ≤ limit <;> simp [write?, h]

theorem size_read? {addr : UInt64} {len : Nat} {m : CardMemory} {d : Bytes}
    (h : m.read? addr len = some d) : d.size = len := by
  simp only [read?] at h
  split at h
  · cases h
    have hkept : (m.written.slice addr.toNat len).size ≤ len := by
      rw [Bytes.size_slice]
      exact Nat.min_le_left _ _
    rw [Bytes.size_append, Bytes.size_zeros]
    exact Nat.add_sub_cancel' hkept
  · cases h

@[simp] theorem size_grown (stop : Nat) (m : CardMemory) :
    (m.grown stop).size = max stop m.written.size := by
  simp only [grown]
  split
  · simp
    omega
  · omega

end CardMemory

end Offload
