/-
**Card memory as one fixed array.**

The memory of an emulated card is kept only up to the highest byte ever written.  Here it is set
against an array of 256 MiB that is there from the start and filled with zeros: reading and writing
the one and the other come to the same, and what is kept never grows past the end of the array.

Main definitions:

* `FlatMemory` — the array; `FlatMemory.read?`, `FlatMemory.write?` touch a range of it;
* `CardMemory.flat` — the array that a card memory stands for;
* `CardMemory.Bounded` — no more is kept than the array holds.

Main results:

* `CardMemory.toList_read?`, `CardMemory.flat_write?` — **reading and writing are those of the
  array**;
* `CardMemory.bounded_write?` — writing keeps the bound;
* `CardMemory.read?_write?_of_apart` — **growing shows in no read**.
-/

import Offload.Memory.Card

set_option relaxedAutoImplicit false
set_option autoImplicit false

namespace Offload

/-- The memory of a card as one array. -/
def FlatMemory : Type := Fin CardMemory.limit → UInt8

namespace FlatMemory

/-- An array of zeros. -/
def fresh : FlatMemory := fun _ => 0

/-- The bytes of a range. -/
def read? (addr : UInt64) (len : Nat) (f : FlatMemory) : Option Bytes :=
  if h : addr.toNat + len ≤ CardMemory.limit then
    some (.ofList (List.ofFn fun i : Fin len => f ⟨addr.toNat + i, by omega⟩))
  else none

/-- The array with bytes written to a range. -/
def write? (addr : UInt64) (d : Bytes) (f : FlatMemory) : Option FlatMemory :=
  if addr.toNat + d.size ≤ CardMemory.limit then
    some fun i =>
      if addr.toNat ≤ i ∧ i < addr.toNat + d.size then (d.toList[i - addr.toNat]?).getD 0 else f i
  else none

end FlatMemory

/-- A replacement that fits is seen at its place only. -/
theorem Bytes.getElem?_overwrite {s d : Bytes} {off : Nat} (h : off + d.size ≤ s.size) (i : Nat) :
    (s.overwrite off d).toList[i]? =
      if off ≤ i ∧ i < off + d.size then d.toList[i - off]? else s.toList[i]? := by
  have hs := Bytes.length_toList s
  have hd := Bytes.length_toList d
  have htake : (s.toList.take off).length = off := by rw [List.length_take]; omega
  rw [Bytes.toList_overwrite, List.append_assoc]
  by_cases hbefore : i < off
  · rw [List.getElem?_append_left (by omega), List.getElem?_take_of_lt hbefore, if_neg (by omega)]
  · rw [List.getElem?_append_right (by omega), htake]
    by_cases hinside : i < off + d.size
    · rw [List.getElem?_append_left (by omega), if_pos (by omega)]
    · rw [List.getElem?_append_right (by omega), List.getElem?_drop, if_neg (by omega)]
      congr 1
      omega

namespace CardMemory

variable {m m' : CardMemory} {addr start : UInt64} {len : Nat} {d e : Bytes}

/-- The byte at a place: a zero behind what is kept. -/
def byteAt (m : CardMemory) (i : Nat) : UInt8 := (m.written.toList[i]?).getD 0

/-- The array that the memory stands for. -/
def flat (m : CardMemory) : FlatMemory := fun i => m.byteAt i

/-- No more is kept than the array holds. -/
def Bounded (m : CardMemory) : Prop := m.written.size ≤ limit

theorem flat_fresh : fresh.flat = FlatMemory.fresh := by
  funext i
  simp [flat, byteAt, fresh, FlatMemory.fresh]

theorem bounded_fresh : fresh.Bounded := Nat.zero_le _

/-! ### Reading -/

/-- What is read of a range is the byte at each of its places. -/
theorem toList_read?_eq (m : CardMemory) (addr : UInt64) (len : Nat) :
    (m.read? addr len).map Bytes.toList =
      if addr.toNat + len ≤ limit then some (List.ofFn fun i : Fin len => m.byteAt (addr.toNat + i))
      else none := by
  rw [read?]
  split
  · rw [Option.map_some, Option.some_inj, Bytes.toList_append, Bytes.toList_slice,
      Bytes.toList_zeros, Bytes.size_slice]
    have hwritten := Bytes.length_toList m.written
    refine List.ext_getElem? ?_
    intro i
    rw [List.getElem?_ofFn]
    by_cases hi : i < len
    · simp only [dif_pos hi, byteAt]
      by_cases hkept : addr.toNat + i < m.written.size
      · rw [List.getElem?_append_left (by simp; omega), List.getElem?_take_of_lt hi,
          List.getElem?_drop, List.getElem?_eq_getElem (by omega)]
        rfl
      · rw [List.getElem?_append_right (by simp; omega), List.getElem?_replicate,
          if_pos (by simp; omega), List.getElem?_eq_none (by omega)]
        rfl
    · rw [dif_neg hi, List.getElem?_eq_none (by simp; omega)]
  · rfl

/-- **Reading is reading the array.** -/
theorem toList_read? (m : CardMemory) (addr : UInt64) (len : Nat) :
    (m.read? addr len).map Bytes.toList = (m.flat.read? addr len).map Bytes.toList := by
  rw [toList_read?_eq, FlatMemory.read?]
  by_cases h : addr.toNat + len ≤ limit
  · rw [if_pos h, dif_pos h, Option.map_some, Bytes.toList_ofList]
    rfl
  · rw [if_neg h, dif_neg h]
    rfl

/-! ### Writing -/

/-- Growing adds zeros, which were read before. -/
theorem byteAt_grown (m : CardMemory) (stop i : Nat) :
    ((m.grown stop).toList[i]?).getD 0 = m.byteAt i := by
  have hwritten := Bytes.length_toList m.written
  rw [grown, byteAt]
  split
  · rw [Bytes.toList_append, Bytes.toList_zeros]
    by_cases hi : i < m.written.size
    · rw [List.getElem?_append_left (by omega)]
    · rw [List.getElem?_append_right (by omega), List.getElem?_eq_none (by omega : _ ≤ i),
        List.getElem?_replicate]
      split <;> rfl
  · rfl

/-- What is at each place after a write. -/
theorem byteAt_write? (h : m.write? addr d = some m') (i : Nat) :
    m'.byteAt i =
      if addr.toNat ≤ i ∧ i < addr.toNat + d.size then (d.toList[i - addr.toNat]?).getD 0
      else m.byteAt i := by
  rw [write?] at h
  split at h
  · cases h
    have hfits : addr.toNat + d.size ≤ (m.grown (addr.toNat + d.size)).size := by
      rw [size_grown]
      exact Nat.le_max_left _ _
    rw [byteAt, Bytes.getElem?_overwrite hfits]
    split
    · rfl
    · exact byteAt_grown m _ i
  · cases h

/-- **Writing is writing the array.** -/
theorem flat_write? (m : CardMemory) (addr : UInt64) (hd : d.toList = e.toList) :
    (m.write? addr d).map flat = m.flat.write? addr e := by
  have hsize : d.size = e.size := by rw [← Bytes.length_toList, hd, Bytes.length_toList]
  cases h : m.write? addr d with
  | none =>
      have hout := isSome_write? addr d m
      rw [h] at hout
      rw [FlatMemory.write?, if_neg (by simpa [hsize] using hout)]
      rfl
  | some m' =>
      have hin := (isSome_write? addr d m).1 (by rw [h]; rfl)
      rw [FlatMemory.write?, if_pos (hsize ▸ hin), Option.map_some]
      refine congrArg some ?_
      funext i
      rw [flat, byteAt_write? h, hd, hsize]
      rfl

/-- **What is kept never grows past the end of the array.** -/
theorem bounded_write? (hm : m.Bounded) (h : m.write? addr d = some m') : m'.Bounded := by
  rw [write?] at h
  split at h
  · next hfits =>
      cases h
      have hgrown := size_grown (addr.toNat + d.size) m
      rw [Bounded] at hm ⊢
      rw [Bytes.size_overwrite (by omega), hgrown]
      exact Nat.max_le.2 ⟨hfits, hm⟩
  · cases h

/-- **Growing shows in no read**: a write changes nothing but the range that it is for, and a write
of no bytes changes nothing. -/
theorem read?_write?_of_apart (h : m.write? addr d = some m')
    (hapart : d.size = 0 ∨ start.toNat + len ≤ addr.toNat ∨ addr.toNat + d.size ≤ start.toNat) :
    (m'.read? start len).map Bytes.toList = (m.read? start len).map Bytes.toList := by
  rw [toList_read?_eq, toList_read?_eq]
  split
  · rw [Option.some_inj]
    congr 1
    funext i
    rw [byteAt_write? h, if_neg (by omega)]
  · rfl

end CardMemory

end Offload
