/-
**Ranges of characters as ranges of bytes.**

The characters of a range are written in UTF-8 with one to four bytes.  A range is cut until all of
its pieces are written with ranges of bytes: any byte of the first range before any byte of the
second one, and so on.

Main definitions:

* `Pattern.ByteRange` — a range of bytes;
* `Pattern.cut?` — where a range of characters is cut, if it has to be;
* `Pattern.byteRanges`, `CharSet.byteRanges` — the sequences of ranges of bytes.
-/

import Offload.Pattern.CharSet

set_option relaxedAutoImplicit false
set_option autoImplicit false

namespace Offload.Pattern

/-- The bytes from the first to the last one. -/
structure ByteRange where
  first : Nat
  last : Nat
  deriving DecidableEq, Repr

/-- The bytes of the character with a number. -/
def bytesOf (n : Nat) : List Nat := (String.utf8EncodeChar (Char.ofNat n)).map UInt8.toNat

/-- Where the numbers from `first` to `last` are cut so that the last six, twelve or eighteen bits
may be anything: the last number before and the first one behind. -/
def cutBits? (first last : Nat) : Option (Nat × Nat) :=
  [0x40, 0x1000, 0x40000].findSome? fun block =>
    let before := first / block * block
    let behind := last / block * block
    if before = behind then none
    else if before < first then some (before + block - 1, before + block)
    else if last + 1 < behind + block then some (behind - 1, behind)
    else none

/-- Where the numbers from `first` to `last` are cut: around those that are no characters, where
the number of bytes changes, and where some of the last bits may be anything and others may not. -/
def cut? (first last : Nat) : Option (Nat × Nat) :=
  if first < 0xe000 ∧ 0xd7ff < last then some (0xd7ff, 0xe000)
  else
    match [0x7f, 0x7ff, 0xffff].find? fun n => first ≤ n && n < last with
    | some n => some (n, n + 1)
    | none => if last ≤ 0x7f then none else cutBits? first last

/-- The sequences of ranges of bytes for the characters from `first` to `last`. -/
def byteRanges (first last : Nat) : List (List ByteRange) :=
  match cut? first last with
  | none => [List.zipWith .mk (bytesOf first) (bytesOf last)]
  | some (before, behind) =>
    if _h : first ≤ before ∧ before < last ∧ first < behind then
      byteRanges first before ++ byteRanges behind last
    else []
termination_by last - first

/-- The sequences of ranges of bytes for the characters of a set. -/
def CharSet.byteRanges (s : CharSet) : List (List ByteRange) :=
  s.ranges.flatMap fun r => Pattern.byteRanges r.first.toNat r.last.toNat

end Offload.Pattern
