/-
**Comparing what was written with what was read.**

Two checks that do not depend on one another: the data of the output has to equal the input, and
the guard behind the data has to be zero still.  Each check that fails is reported with a dump of
the bytes in question.

Main definitions:

* `Verification` — the outcome of a comparison;
* `firstDifference`, `lastDifference` — the least and the greatest index at which two lists differ;
* `Verification.compare` — the comparison;
* `Verification.report` — what it logs.

Main results:

* `firstDifference_eq_none_iff` — no difference is found exactly in lists with a common prefix of
  the shorter one's length.
-/

import Offload.Hexdump
import Offload.Log

set_option relaxedAutoImplicit false
set_option autoImplicit false

namespace Offload

/-- The outcome of a comparison. -/
inductive Verification where
  /-- The data is right and the guard is clean. -/
  | passed
  /-- At least one check failed: where the data differs first, if it does, and whether the guard
  was written to. -/
  | mismatch (firstDifference : Option Nat) (guardDirty : Bool)
  /-- Nothing was compared. -/
  | skipped
  deriving DecidableEq, Repr

/-- The least index below both lengths at which two lists differ. -/
def firstDifference : List UInt8 → List UInt8 → Option Nat
  | a :: as, b :: bs => if a = b then (firstDifference as bs).map (· + 1) else some 0
  | _, _ => none

/-- The greatest index below both lengths at which two lists differ. -/
def lastDifference : List UInt8 → List UInt8 → Option Nat
  | a :: as, b :: bs =>
    match lastDifference as bs with
    | some i => some (i + 1)
    | none => if a = b then none else some 0
  | _, _ => none

theorem firstDifference_eq_none_iff (as bs : List UInt8) :
    firstDifference as bs = none ↔
      as.take bs.length = bs.take as.length := by
  induction as generalizing bs with
  | nil => simp [firstDifference]
  | cons a as ih =>
      cases bs with
      | nil => simp [firstDifference]
      | cons b bs =>
          by_cases h : a = b
          · simp [firstDifference, h, ih]
          · simp [firstDifference, h]

namespace Verification

/-- Did a check fail? -/
def failed : Verification → Bool
  | mismatch _ _ => true
  | _ => false

/-- The most bytes that are shown of data that differs. -/
def maxDump : Nat := 256

/-- The part of the data that is shown: whole lines around the differing bytes, at most `maxDump`
bytes from the first such line on, and nothing beyond the data. -/
def window (first last size : Nat) : Nat × Nat :=
  let start := first / 16 * 16
  (start, min (min ((last / 16 + 1) * 16) size) (start + maxDump))

/-- The bytes of a list from one index up to another. -/
def cut (bytes : List UInt8) (range : Nat × Nat) : List UInt8 :=
  (bytes.drop range.1).take (range.2 - range.1)

/-- The bytes of the output that are compared with the input. -/
def dataOf (input output : List UInt8) : List UInt8 := output.take input.length

/-- The bytes of the output that have to be zero. -/
def guardOf (input output : List UInt8) : List UInt8 := output.drop input.length

/-- Was anything written to the guard? -/
def guardDirty (input output : List UInt8) : Bool := (guardOf input output).any (· != 0)

/-- Compares an output with an input.  Output beyond the length of the input is the guard. -/
def compare (input output : List UInt8) : Verification :=
  match firstDifference input output, guardDirty input output with
  | none, false => passed
  | first, dirty => mismatch first dirty

/-- The record of a failing check. -/
def failure (text : String) : Log.Record := ⟨.error, .verification, text⟩

/-- What is logged about the data. -/
def reportData (input output : List UInt8) : List Log.Record :=
  match firstDifference input output with
  | none => []
  | some first =>
    let last := (lastDifference input output).getD first
    let range := window first last (min input.length output.length)
    [failure ("data verification failed at offset 0x" ++ Text.hex first ++ ", expected:\n" ++
        Hexdump.render (cut input range) range.1),
     failure ("got:\n" ++ Hexdump.render (cut (dataOf input output) range) range.1)]

/-- What is logged about the guard. -/
def reportGuard (input output : List UInt8) : List Log.Record :=
  if guardDirty input output then
    [failure ("trailing zero verification failed!\n" ++
      Hexdump.render (guardOf input output) (min input.length output.length))]
  else []

/-- What a comparison logs: first about the data, then about the guard. -/
def report (input output : List UInt8) : List Log.Record :=
  reportData input output ++ reportGuard input output

end Verification

end Offload
