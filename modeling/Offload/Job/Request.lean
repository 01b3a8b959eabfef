/-
**What a job is made from.**

Whoever wants a job says which region to read and which one to write.  The sizes come from files and
from options and can be of any length; the fields of a descriptor cannot.

Main definitions:

* `JobRequest` — what a job is made from; `JobRequest.job` makes it, or says why not.

Main results:

* `JobRequest.job_eq_error_iff` — which requests are refused.
-/

import Offload.Error
import Offload.Job

set_option relaxedAutoImplicit false
set_option autoImplicit false

namespace Offload

/-- What a job is made from: the regions to read and to write, of any size. -/
structure JobRequest where
  addrIn : UInt64
  sizeIn : Nat
  spaceIn : AddressSpace
  addrOut : UInt64
  sizeOut : Nat
  spaceOut : AddressSpace
  deriving DecidableEq

namespace JobRequest

/-- The job that is asked for.  A size that does not fit its descriptor is an argument that is
refused. -/
def job (r : JobRequest) : Except Error Job :=
  match Job.changecase r.addrIn r.sizeIn r.spaceIn r.addrOut r.sizeOut r.spaceOut with
  | .ok j => .ok j
  | .error size => .error (.argument (.oversized size))

variable {r : JobRequest} {e : Error}

/-- The size to read is looked at first, then the size to write. -/
theorem job_cases (r : JobRequest) :
    (UInt32.size ≤ r.sizeIn ∧ r.job = .error (.argument (.oversized r.sizeIn))) ∨
      (r.sizeIn < UInt32.size ∧ UInt32.size ≤ r.sizeOut ∧
        r.job = .error (.argument (.oversized r.sizeOut))) ∨
      ∃ lenIn lenOut : UInt32, lenIn.toNat = r.sizeIn ∧ lenOut.toNat = r.sizeOut ∧
        r.job = .ok ⟨0, ⟨r.addrIn, lenIn, r.spaceIn, .ofSource⟩,
          ⟨r.addrOut, lenOut, r.spaceOut, .ofDestination⟩⟩ := by
  cases hin : descriptorLength r.sizeIn with
  | none =>
      refine Or.inl ⟨(descriptorLength_eq_none_iff _).1 hin, ?_⟩
      simp only [job, Job.changecase, hin]
  | some lenIn =>
      have hlenIn := descriptorLength_eq_some_iff.1 hin
      cases hout : descriptorLength r.sizeOut with
      | none =>
          refine Or.inr (Or.inl ⟨hlenIn ▸ lenIn.toNat_lt,
            (descriptorLength_eq_none_iff _).1 hout, ?_⟩)
          simp only [job, Job.changecase, hin, hout]
      | some lenOut =>
          refine Or.inr (Or.inr ⟨lenIn, lenOut, hlenIn, descriptorLength_eq_some_iff.1 hout, ?_⟩)
          simp only [job, Job.changecase, hin, hout]

/-- A request is refused if one of its sizes does not fit a descriptor, and the error names that
size; the size to read, if it is both. -/
theorem job_eq_error_iff :
    r.job = .error e ↔
      (UInt32.size ≤ r.sizeIn ∨ UInt32.size ≤ r.sizeOut) ∧
        e = .argument (.oversized (if UInt32.size ≤ r.sizeIn then r.sizeIn else r.sizeOut)) := by
  rcases r.job_cases with
    ⟨hin, hjob⟩ | ⟨hin, hout, hjob⟩ | ⟨lenIn, lenOut, hlenIn, hlenOut, hjob⟩ <;> rw [hjob]
  · simp only [hin, true_or, true_and, if_true, Except.error.injEq, eq_comm]
  · simp only [Nat.not_le.2 hin, hout, or_true, true_and, if_false, Except.error.injEq, eq_comm]
  · have hin : ¬ UInt32.size ≤ r.sizeIn := Nat.not_le.2 (hlenIn ▸ lenIn.toNat_lt)
    have hout : ¬ UInt32.size ≤ r.sizeOut := Nat.not_le.2 (hlenOut ▸ lenOut.toNat_lt)
    simp [hin, hout]

end JobRequest

end Offload
