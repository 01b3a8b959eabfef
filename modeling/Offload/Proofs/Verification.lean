/-
**What a comparison finds.**

A comparison passes if the output is the input with nothing but zeros behind it, and otherwise it
tells where the data differs first and whether the guard was written to.  What a job writes is its
input in upper case.  So a comparison of the output with the input finds a difference exactly where
the input has a lower-case letter, and a guard that nobody wrote to is clean.

Main definitions:

* `isLower` — is a byte an ASCII lower-case letter?
* `Verification.ofData` — what comparing data with its upper case comes to.

Main results:

* `firstDifference_eq_some_iff`, `Verification.guardDirty_iff` — what a mismatch tells;
* `Verification.compare_eq_passed_iff` — **when a comparison passes**;
* `firstDifference_upper` — **the first difference is at the first lower-case letter**;
* `Verification.compare_upper` — what is compared after a job that went well.
-/

import Offload.Bytes
import Offload.Verification

set_option relaxedAutoImplicit false
set_option autoImplicit false

namespace Offload

/-! ### Outcomes -/

theorem forall_getElem?_cons {a b : UInt8} {as bs : List UInt8} {i : Nat} :
    (∀ j < i + 1, (a :: as)[j]? = (b :: bs)[j]?) ↔ a = b ∧ ∀ j < i, as[j]? = bs[j]? := by
  simp only [Nat.forall_lt_succ_left', List.getElem?_cons_zero, Option.some_inj,
    List.getElem?_cons_succ]

/-- The first difference is the least index at which both lists have a byte and the bytes differ. -/
theorem firstDifference_eq_some_iff {as bs : List UInt8} {i : Nat} :
    firstDifference as bs = some i ↔
      i < as.length ∧ i < bs.length ∧ as[i]? ≠ bs[i]? ∧ ∀ j < i, as[j]? = bs[j]? := by
  induction as generalizing bs i with
  | nil => simp [firstDifference]
  | cons a as ih =>
      cases bs with
      | nil => simp [firstDifference]
      | cons b bs =>
          rw [firstDifference]
          by_cases hab : a = b
          · rw [if_pos hab]
            cases i with
            | zero => simp [hab]
            | succ i =>
                rw [forall_getElem?_cons]
                simp [ih, hab]
          · rw [if_neg hab]
            cases i with
            | zero => simp [hab]
            | succ i =>
                rw [forall_getElem?_cons]
                simp [hab]

namespace Verification

/-- The guard is dirty if there is a byte in it that is not zero. -/
theorem guardDirty_iff (given found : List UInt8) :
    guardDirty given found = true ↔ ∃ b ∈ found.drop given.length, b ≠ 0 := by
  simp [guardDirty, guardOf]

/-- What a comparison finds that does not pass. -/
theorem compare_eq (given found : List UInt8) :
    compare given found = .passed ∨
      compare given found = .mismatch (firstDifference given found) (guardDirty given found) := by
  rw [compare]
  split
  · exact Or.inl rfl
  · exact Or.inr rfl

/-- **A comparison passes exactly if the output is the input with nothing but zeros behind it.** -/
theorem compare_eq_passed_iff {given found : List UInt8} {guard : Nat}
    (h : found.length = given.length + guard) :
    compare given found = .passed ↔ found = given ++ List.replicate guard 0 := by
  have hcompare : compare given found = .passed ↔
      firstDifference given found = none ∧ guardDirty given found = false := by
    rw [compare]
    split
    · next hfirst hdirty => simp [hfirst, hdirty]
    · next hnot =>
        simp only [reduceCtorEq, false_iff, not_and]
        exact hnot
  have hdata : firstDifference given found = none ↔ found.take given.length = given := by
    rw [firstDifference_eq_none_iff, List.take_of_length_le (by omega), eq_comm]
  have hguard : guardDirty given found = false ↔
      found.drop given.length = List.replicate guard 0 := by
    rw [← Bool.not_eq_true, guardDirty_iff, List.eq_replicate_iff]
    simp [h]
  rw [hcompare, hdata, hguard]
  constructor
  · rintro ⟨hd, hg⟩
    rw [← List.take_append_drop given.length found, hd, hg]
  · intro hfound
    rw [hfound]
    simp

end Verification

/-! ### Upper case -/

/-- Is the byte an ASCII lower-case letter? -/
def isLower (b : UInt8) : Bool := 97 ≤ b && b ≤ 122

theorem isLower_iff (b : UInt8) : isLower b = true ↔ 97 ≤ b ∧ b ≤ 122 := by
  simp [isLower]

/-- Upper case changes the lower-case letters and no other byte. -/
theorem upperByte_eq_self_iff (b : UInt8) : b = upperByte b ↔ isLower b = false := by
  have hlower := isLower_iff b
  by_cases h : 97 ≤ b ∧ b ≤ 122
  · have hne : b ≠ b - 32 := by
      intro heq
      have hnat := congrArg UInt8.toNat heq
      rw [UInt8.toNat_sub_of_le b 32 (UInt8.le_trans (by decide) h.1)] at hnat
      have hle := UInt8.le_iff_toNat_le.1 h.1
      have h97 : (97 : UInt8).toNat = 97 := rfl
      have h32 : (32 : UInt8).toNat = 32 := rfl
      omega
    rw [upperByte, if_pos h, hlower.2 h]
    simp [hne]
  · have hfalse : isLower b = false := by rw [Bool.eq_false_iff, ne_eq, hlower]; exact h
    rw [upperByte, if_neg h, hfalse]
    simp

/-- Data is its own upper case exactly if there is no lower-case letter in it. -/
theorem map_upperByte_eq_self_iff (data : List UInt8) :
    data.map upperByte = data ↔ ∀ b ∈ data, isLower b = false := by
  induction data with
  | nil => simp
  | cons b data ih =>
      rw [List.map_cons, List.cons.injEq, ih, List.forall_mem_cons, ← upperByte_eq_self_iff,
        eq_comm]

/-- **Data differs from its upper case first at the first lower-case letter**, whatever follows the
upper case. -/
theorem firstDifference_upper (data rest : List UInt8) :
    firstDifference data (data.map upperByte ++ rest) = data.findIdx? isLower := by
  induction data with
  | nil => simp [firstDifference]
  | cons b data ih =>
      rw [List.map_cons, List.cons_append, firstDifference, List.findIdx?_cons, ih]
      cases hb : isLower b with
      | false => rw [if_pos ((upperByte_eq_self_iff b).2 hb)]; rfl
      | true =>
          rw [if_neg]
          · rfl
          · intro heq
            rw [(upperByte_eq_self_iff b).1 heq] at hb
            cases hb

namespace Verification

/-- What comparing data with its upper case comes to. -/
def ofData (data : List UInt8) : Verification :=
  match data.findIdx? isLower with
  | none => passed
  | some first => mismatch (some first) false

/-- **What is found after a job that went well**: the lower-case letters of the input, and a clean
guard. -/
theorem compare_upper (data : List UInt8) (guard : Nat) :
    compare data (data.map upperByte ++ List.replicate guard 0) = ofData data := by
  have hguard : guardDirty data (data.map upperByte ++ List.replicate guard 0) = false := by
    have hrest : guardOf data (data.map upperByte ++ List.replicate guard 0) =
        List.replicate guard 0 := by
      rw [guardOf, List.drop_append_of_le_length (by simp)]
      simp
    rw [guardDirty, hrest]
    simp
  rw [compare, hguard, firstDifference_upper, ofData]
  cases data.findIdx? isLower <;> rfl

end Verification

end Offload
