/-
**Where two lists differ.**

Two lists are compared byte by byte, as far as the shorter one goes.  The index that is looked for
from the front is the least one at which they differ, and the index that is looked for from the back
the greatest one; neither is found if the lists agree as far as both go.

Main definitions:

* `DiffersAt` — two lists differ at an index.

Main results:

* `firstDifference_isLeast`, `lastDifference_isGreatest` — **what is found from the front, and what
  is found from the back**;
* `firstDifference_eq_none` — when nothing is found.
-/

import Offload.Proofs.Verification
import Mathlib.Order.Bounds.Defs

set_option relaxedAutoImplicit false
set_option autoImplicit false

namespace Offload

variable {a b : UInt8} {as bs : List UInt8} {i : Nat}

/-- Two lists differ at an index that both of them reach. -/
def DiffersAt (as bs : List UInt8) (i : Nat) : Prop :=
  i < min as.length bs.length ∧ as[i]? ≠ bs[i]?

@[simp] theorem not_differsAt_nil_left : ¬ DiffersAt [] bs i := by simp [DiffersAt]

@[simp] theorem not_differsAt_nil_right : ¬ DiffersAt as [] i := by simp [DiffersAt]

@[simp] theorem differsAt_cons_zero : DiffersAt (a :: as) (b :: bs) 0 ↔ a ≠ b := by
  simp [DiffersAt]

@[simp] theorem differsAt_cons_succ :
    DiffersAt (a :: as) (b :: bs) (i + 1) ↔ DiffersAt as bs i := by
  simp [DiffersAt]

theorem forall_not_differsAt_cons :
    (∀ i, ¬ DiffersAt (a :: as) (b :: bs) i) ↔ a = b ∧ ∀ i, ¬ DiffersAt as bs i := by
  constructor
  · intro h
    exact ⟨by simpa using h 0, fun i => by simpa using h (i + 1)⟩
  · rintro ⟨hab, h⟩ i
    cases i with
    | zero => simpa using hab
    | succ i => simpa using h i

/-- **From the front the least index is found** at which the lists differ. -/
theorem firstDifference_isLeast :
    firstDifference as bs = some i ↔ IsLeast {i | DiffersAt as bs i} i := by
  rw [firstDifference_eq_some_iff]
  constructor
  · rintro ⟨has, hbs, hne, hbefore⟩
    refine ⟨⟨Nat.lt_min.2 ⟨has, hbs⟩, hne⟩, ?_⟩
    rintro j ⟨-, hj⟩
    exact Nat.le_of_not_lt fun hlt => hj (hbefore j hlt)
  · rintro ⟨⟨hi, hne⟩, hleast⟩
    obtain ⟨has, hbs⟩ := Nat.lt_min.1 hi
    refine ⟨has, hbs, hne, ?_⟩
    intro j hj
    refine Decidable.not_not.1 fun hdiffers => ?_
    exact Nat.not_le.2 hj (hleast ⟨Nat.lt_trans hj hi, hdiffers⟩)

theorem firstDifference_eq_none :
    firstDifference as bs = none ↔ ∀ i, ¬ DiffersAt as bs i := by
  induction as generalizing bs with
  | nil => simp [firstDifference]
  | cons a as ih =>
      cases bs with
      | nil => simp [firstDifference]
      | cons b bs =>
          rw [firstDifference, forall_not_differsAt_cons, ← ih]
          by_cases hab : a = b
          · simp [hab]
          · simp [hab]

/-- **From the back the greatest index is found** at which the lists differ, if they do. -/
theorem lastDifference_isGreatest (as bs : List UInt8) :
    (lastDifference as bs = none ∧ ∀ i, ¬ DiffersAt as bs i) ∨
      ∃ i, lastDifference as bs = some i ∧ IsGreatest {i | DiffersAt as bs i} i := by
  induction as generalizing bs with
  | nil => exact Or.inl ⟨rfl, fun _ => not_differsAt_nil_left⟩
  | cons a as ih =>
      cases bs with
      | nil => exact Or.inl ⟨rfl, fun _ => not_differsAt_nil_right⟩
      | cons b bs =>
          rw [lastDifference, forall_not_differsAt_cons]
          rcases ih bs with ⟨hnone, hsame⟩ | ⟨i, hsome, hi, hgreatest⟩
          · rw [hnone]
            by_cases hab : a = b
            · exact Or.inl ⟨if_pos hab, hab, hsame⟩
            · refine Or.inr ⟨0, if_neg hab, differsAt_cons_zero.2 hab, ?_⟩
              intro j hj
              cases j with
              | zero => exact Nat.le_refl 0
              | succ j => exact absurd (differsAt_cons_succ.1 hj) (hsame j)
          · rw [hsome]
            refine Or.inr ⟨i + 1, rfl, differsAt_cons_succ.2 hi, ?_⟩
            intro j hj
            cases j with
            | zero => exact Nat.zero_le _
            | succ j => exact Nat.succ_le_succ (hgreatest (differsAt_cons_succ.1 hj))

end Offload
