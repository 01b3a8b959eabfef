/-
**Spans of time.**

A span of time is shown in the largest unit of which it holds at least one, with as many decimals
as it needs.

Main definitions:

* `Text.elapsed` — a number of nanoseconds.

Main results:

* `Text.decimals_zero`, `Text.elapsed_zero` — a whole number has no decimals.
-/

set_option relaxedAutoImplicit false
set_option autoImplicit false

namespace Offload.Text

/-- The decimals of a part of a unit that has so many decimals, without zeros at the end, behind a
point; none for nothing. -/
def decimals (places part : Nat) : List Char :=
  let digits := Nat.toDigits 10 part
  let padded := List.replicate (places - digits.length) '0' ++ digits
  if part = 0 then [] else '.' :: (padded.reverse.dropWhile (· = '0')).reverse

theorem decimals_zero (places : Nat) : decimals places 0 = [] := by
  simp [decimals]

/-- A time in a unit of `scale` nanoseconds, which has so many decimals. -/
def inUnit (scale places : Nat) (unit : String) (time : Nat) : String :=
  toString (time / scale) ++ String.ofList (decimals places (time % scale)) ++ unit

/-- A time in nanoseconds. -/
def elapsed (time : Nat) : String :=
  if 1000000000 ≤ time then inUnit 1000000000 9 "s" time
  else if 1000000 ≤ time then inUnit 1000000 6 "ms" time
  else if 1000 ≤ time then inUnit 1000 3 "µs" time
  else inUnit 1 0 "ns" time

theorem elapsed_zero : elapsed 0 = "0ns" := by
  decide +kernel

end Offload.Text
