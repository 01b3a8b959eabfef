/-
**Hazards, and why card memory never runs into one.**

Numbers of the machine have 64 bits, differences must not be negative, a range must lie within the
bytes that it is taken from, and a copy needs as much room as it has bytes.  Operations like these
are partial: they come to a value, or they run into a hazard.  Reading and writing the memory of a
card are made of them, and never run into any: the checks that come first leave no room for it.

Main definitions:

* `Hazard` — what must never happen;
* `Hazard.sum`, `Hazard.difference`, `Hazard.range`, `Hazard.before`, `Hazard.copied`,
  `Hazard.present`, `Hazard.accepted` — partial operations;
* `CardMemory.readKept`, `CardMemory.writeKept` — reading and writing card memory, made of them.

Main results:

* `CardMemory.readKept_eq`, `CardMemory.writeKept_eq` — **no read and no write of card memory runs
  into a hazard**, and they come to what they should.
-/

import Offload.Memory.Card

set_option relaxedAutoImplicit false
set_option autoImplicit false

namespace Offload

/-- What must never happen. -/
inductive Hazard where
  /-- A sum has more than 64 bits. -/
  | overflow
  /-- A difference is negative. -/
  | underflow
  /-- A range reaches beyond the bytes that it is taken from. -/
  | outOfBounds
  /-- A range has another length than the bytes to put there. -/
  | lengthsDiffer
  /-- Something that has to be there is missing. -/
  | missing
  /-- Something is refused that was found fit before. -/
  | refused
  deriving DecidableEq, Repr

namespace Hazard

variable {α β ε : Type} {a b start stop : Nat} {src d : List UInt8}

/-- The sum of two numbers. -/
def sum (a b : Nat) : Except Hazard Nat :=
  if a + b < UInt64.size then .ok (a + b) else .error overflow

/-- The difference of two numbers. -/
def difference (a b : Nat) : Except Hazard Nat :=
  if b ≤ a then .ok (a - b) else .error underflow

/-- The bytes from one place up to another. -/
def range (start stop : Nat) (d : List UInt8) : Except Hazard (List UInt8) :=
  if start ≤ stop ∧ stop ≤ d.length then .ok ((d.drop start).take (stop - start))
  else .error outOfBounds

/-- The bytes up to a place. -/
def before (stop : Nat) (d : Bytes) : Except Hazard Bytes :=
  if stop ≤ d.size then .ok (d.take stop) else .error outOfBounds

/-- The bytes with those from one place up to another replaced by as many others. -/
def copied (start stop : Nat) (src d : List UInt8) : Except Hazard (List UInt8) :=
  if start ≤ stop ∧ stop ≤ d.length then
    if src.length = stop - start then .ok (d.take start ++ src ++ d.drop stop)
    else .error lengthsDiffer
  else .error outOfBounds

/-- What has to be there. -/
def present : Option α → Except Hazard α
  | some x => .ok x
  | none => .error missing

/-- What cannot be refused. -/
def accepted : Except ε α → Except Hazard α
  | .ok x => .ok x
  | .error _ => .error refused

/-- What comes after an operation that runs into no hazard. -/
theorem bind_eq {x : Except Hazard α} {y : α} (h : x = .ok y)
    (f : α → Except Hazard β) : (x >>= f) = f y := by
  rw [h]
  rfl

theorem sum_eq (h : a + b < UInt64.size) : sum a b = .ok (a + b) := if_pos h

theorem difference_eq (h : b ≤ a) : difference a b = .ok (a - b) := if_pos h

theorem range_eq (hstart : start ≤ stop) (hstop : stop ≤ d.length) :
    range start stop d = .ok ((d.drop start).take (stop - start)) :=
  if_pos ⟨hstart, hstop⟩

theorem before_eq {d : Bytes} (h : stop ≤ d.size) : before stop d = .ok (d.take stop) := if_pos h

theorem copied_eq (hstart : start ≤ stop) (hstop : stop ≤ d.length)
    (hlen : src.length = stop - start) :
    copied start stop src d = .ok (d.take start ++ src ++ d.drop stop) := by
  rw [copied, if_pos ⟨hstart, hstop⟩, if_pos hlen]

end Hazard

namespace CardMemory

open Hazard (sum difference range copied bind_eq sum_eq difference_eq range_eq copied_eq)

/-- Does a range end within the memory of a card?  A sum that has more than 64 bits does not. -/
def stop? (addr : UInt64) (len : Nat) : Option Nat :=
  match sum addr.toNat len with
  | .error _ => none
  | .ok stop => if limit < stop then none else some stop

/-- Copies what is kept of a range, which starts within that, to the start of other bytes. -/
def copyKept (start stop : Nat) (kept out : List UInt8) : Except Hazard (List UInt8) := do
  let available ← difference (min kept.length stop) start
  let last ← sum start available
  let part ← range start last kept
  copied 0 available part out

/-- Reads a range of the bytes that are kept of the memory of a card, with zeros behind them. -/
def readKept (addr : UInt64) (len : Nat) (kept : List UInt8) :
    Except Hazard (Option (List UInt8)) :=
  match stop? addr len with
  | none => .ok none
  | some stop =>
    let out := List.replicate len 0
    if addr.toNat < kept.length then do
      let out ← copyKept addr.toNat stop kept out
      return some out
    else .ok (some out)

/-- Writes to a range of the bytes that are kept of the memory of a card, which grow if they end
before the range does. -/
def writeKept (addr : UInt64) (data kept : List UInt8) : Except Hazard (Option (List UInt8)) :=
  match stop? addr data.length with
  | none => .ok none
  | some stop =>
    let grown :=
      if kept.length < stop then kept ++ List.replicate (stop - kept.length) 0 else kept
    do
      let start ← difference stop data.length
      let out ← copied start stop data grown
      return some out

/-- The end of a range is looked for in numbers of 64 bits, but these are enough. -/
theorem stop?_eq (addr : UInt64) (len : Nat) :
    stop? addr len = if addr.toNat + len ≤ limit then some (addr.toNat + len) else none := by
  have hlimit : limit < UInt64.size := by decide
  rw [stop?]
  by_cases h : addr.toNat + len ≤ limit
  · rw [sum_eq (by omega), if_pos h]
    exact if_neg (Nat.not_lt.2 h)
  · rw [if_neg h]
    by_cases hsum : addr.toNat + len < UInt64.size
    · rw [sum_eq hsum]
      exact if_pos (Nat.not_le.1 h)
    · rw [sum, if_neg hsum]

/-- As many bytes are available as are kept of the range, and there is room for them. -/
theorem copyKept_eq {start len : Nat} {kept : List UInt8} (hstart : start < kept.length)
    (hstop : start + len ≤ limit) :
    copyKept start (start + len) kept (List.replicate len 0) =
      .ok ((kept.drop start).take len ++
        List.replicate (len - min len (kept.length - start)) 0) := by
  have hlimit : limit < UInt64.size := by decide
  obtain ⟨available, havailable⟩ : ∃ n, n = min len (kept.length - start) := ⟨_, rfl⟩
  have hdifference : min kept.length (start + len) - start = available := by omega
  have hpart : (kept.drop start).take (start + available - start) = (kept.drop start).take len := by
    rw [Nat.add_sub_cancel_left, havailable, List.take_eq_take_min (i := len), List.length_drop]
  have hlen : ((kept.drop start).take len).length = available - 0 := by
    rw [List.length_take, List.length_drop]
    omega
  have hroom : available ≤ (List.replicate len (0 : UInt8)).length := by
    rw [List.length_replicate]
    omega
  have hmin : start ≤ min kept.length (start + len) := by omega
  rw [copyKept, bind_eq (difference_eq hmin), hdifference, bind_eq (sum_eq (by omega)),
    bind_eq (range_eq (by omega) (by omega)), hpart, copied_eq (Nat.zero_le _) hroom hlen,
    List.take_zero, List.nil_append, List.drop_replicate, ← havailable]

/-- **No read of card memory runs into a hazard**, and it comes to what is there. -/
theorem readKept_eq (m : CardMemory) (addr : UInt64) (len : Nat) :
    readKept addr len m.written.toList = .ok ((m.read? addr len).map Bytes.toList) := by
  rw [readKept, stop?_eq, read?]
  by_cases h : addr.toNat + len ≤ limit
  · have hread : (m.written.slice addr.toNat len ++
        Bytes.zeros (len - (m.written.slice addr.toNat len).size)).toList =
          (m.written.toList.drop addr.toNat).take len ++
            List.replicate (len - min len (m.written.toList.length - addr.toNat)) 0 := by
      simp
    rw [if_pos h, if_pos h]
    simp only [Option.map_some, hread]
    by_cases hstart : addr.toNat < m.written.toList.length
    · rw [if_pos hstart, bind_eq (copyKept_eq hstart h)]
      rfl
    · -- Nothing is kept of the range.
      have hnone : m.written.toList.drop addr.toNat = [] :=
        List.drop_eq_nil_of_le (Nat.not_lt.1 hstart)
      rw [if_neg hstart, hnone, List.take_nil, List.nil_append,
        Nat.sub_eq_zero_of_le (Nat.not_lt.1 hstart), Nat.min_zero, Nat.sub_zero]
  · rw [if_neg h, if_neg h]
    rfl

/-- **No write of card memory runs into a hazard**, and it comes to what it should. -/
theorem writeKept_eq (m : CardMemory) (addr : UInt64) (d : Bytes) :
    writeKept addr d.toList m.written.toList =
      .ok ((m.write? addr d).map fun m' => m'.written.toList) := by
  have hkept := Bytes.length_toList m.written
  have hd := Bytes.length_toList d
  have hgrown (stop : Nat) : (if m.written.toList.length < stop then
      m.written.toList ++ List.replicate (stop - m.written.toList.length) 0
      else m.written.toList) = (m.grown stop).toList := by
    rw [grown, hkept]
    split
    · rw [Bytes.toList_append, Bytes.toList_zeros]
    · rfl
  rw [writeKept, stop?_eq, hd, write?]
  by_cases h : addr.toNat + d.size ≤ limit
  · have hroom : addr.toNat + d.size ≤ (m.grown (addr.toNat + d.size)).toList.length := by
      rw [Bytes.length_toList, size_grown]
      exact Nat.le_max_left _ _
    rw [if_pos h, if_pos h]
    simp only [Option.map_some, hgrown]
    have hlen : d.toList.length = addr.toNat + d.size - addr.toNat := by
      rw [hd, Nat.add_sub_cancel_left]
    rw [bind_eq (difference_eq (Nat.le_add_left _ _)), Nat.add_sub_cancel,
      bind_eq (copied_eq (Nat.le_add_right _ _) hroom hlen), Bytes.toList_overwrite]
    rfl
  · rw [if_neg h, if_neg h]
    rfl

end CardMemory

end Offload
