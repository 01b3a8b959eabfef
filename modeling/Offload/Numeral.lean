/-
**Numbers and sizes as they are written on the command line.**

A number is a decimal numeral, a hexadecimal one after `0x` or `0X`, or an octal one after a
leading `0`; blanks around it do not count, and the digits may follow a plus sign.  A size is a
number and an optional unit, `K`, `M` or `G`, each also with `iB`.  Both have to fit in 64 bits.

Main definitions:

* `Numeral.readDigits`, `Numeral.readUnsigned` — digits in a radix;
* `Numeral.split` — the radix that a number announces, and its digits;
* `Numeral.number` — reading a number;
* `Numeral.size` — reading a size.

Main results:

* `Numeral.readDigits_lt` — what is read fits in 64 bits.
-/

import Offload.Text.Blank
import Offload.Text.Quoted

set_option relaxedAutoImplicit false
set_option autoImplicit false

namespace Offload.Numeral

/-! ### Digits -/

/-- Why a text is not a numeral. -/
inductive Fault where
  /-- There is no digit at all. -/
  | empty
  /-- A character is not a digit of the radix. -/
  | invalidDigit
  /-- The value does not fit in 64 bits. -/
  | tooLarge
  deriving DecidableEq, Repr

/-- The fault in words. -/
def Fault.message : Fault → String
  | .empty => "cannot parse integer from empty string"
  | .invalidDigit => "invalid digit found in string"
  | .tooLarge => "number too large to fit in target type"

/-- The value of a character as a digit, if the radix has such a digit. -/
def digitValue? (radix : Nat) (c : Char) : Option Nat :=
  let v :=
    if '0' ≤ c ∧ c ≤ '9' then c.toNat - 48
    else if 'a' ≤ c ∧ c ≤ 'z' then c.toNat - 87
    else if 'A' ≤ c ∧ c ≤ 'Z' then c.toNat - 55
    else radix
  if v < radix then some v else none

/-- The number that starts with the digits of `acc` and goes on with the given ones.  The first
character that is no digit, or that makes the number too large, decides. -/
def readDigits (radix : Nat) : Nat → List Char → Except Fault Nat
  | acc, [] => .ok acc
  | acc, c :: cs =>
    match digitValue? radix c with
    | none => .error .invalidDigit
    | some d =>
      if acc * radix + d < UInt64.size then readDigits radix (acc * radix + d) cs
      else .error .tooLarge

theorem readDigits_lt {radix acc n : Nat} {cs : List Char} (hacc : acc < UInt64.size)
    (h : readDigits radix acc cs = .ok n) : n < UInt64.size := by
  induction cs generalizing acc with
  | nil => cases h; exact hacc
  | cons c cs ih =>
      rw [readDigits] at h
      split at h
      · cases h
      · split at h
        · next hlt => exact ih hlt h
        · cases h

/-- Digits in a radix, with an optional plus sign before them. -/
def readUnsigned (radix : Nat) : List Char → Except Fault Nat
  | [] => .error .empty
  | ['+'] => .error .invalidDigit
  | '+' :: cs => readDigits radix 0 cs
  | cs => readDigits radix 0 cs

/-! ### Numbers -/

/-- Why a text is not a number or not a size. -/
inductive Error where
  /-- The text (without the blanks around it) is no number. -/
  | notANumber (text : String) (fault : Fault)
  /-- The text is a number and a unit, but the product does not fit in 64 bits. -/
  | sizeTooLarge (text : String)
  deriving DecidableEq, Repr

/-- The error in words. -/
def Error.message : Error → String
  | .notANumber text fault => Text.quoted text ++ " is not a number: " ++ fault.message
  | .sizeTooLarge text => Text.quoted text ++ " is too large"

/-- The radix that the first characters announce, and the characters after them.  A lone `0`
announces nothing. -/
def split : List Char → Nat × List Char
  | '0' :: 'x' :: cs => (16, cs)
  | '0' :: 'X' :: cs => (16, cs)
  | '0' :: c :: cs => (8, c :: cs)
  | cs => (10, cs)

/-- Reads a number from characters that have no blanks around them. -/
def readNumber (cs : List Char) : Except Fault Nat :=
  readUnsigned (split cs).1 (split cs).2

/-- Reads a number from characters, as `number` does. -/
def numberOfChars (cs : List Char) : Except Error Nat :=
  match readNumber (Text.trimChars cs) with
  | .ok n => .ok n
  | .error fault => .error (.notANumber (String.ofList (Text.trimChars cs)) fault)

/-- Reads a number. -/
def number (s : String) : Except Error Nat := numberOfChars s.toList

/-! ### Sizes -/

/-- The number of bytes in a kibibyte. -/
def kibi : Nat := 1024

/-- The units of a size and the bytes that they stand for, in the order in which they are looked
for at the end of a text. -/
def units : List (List Char × Nat) :=
  [("KiB".toList, kibi), ("MiB".toList, kibi * kibi), ("GiB".toList, kibi * kibi * kibi),
   ("K".toList, kibi), ("M".toList, kibi * kibi), ("G".toList, kibi * kibi * kibi)]

/-- The characters before the given last ones, if a text ends with those. -/
def stripEnd? (last cs : List Char) : Option (List Char) :=
  if cs.drop (cs.length - last.length) = last ∧ last.length ≤ cs.length then
    some (cs.take (cs.length - last.length))
  else none

/-- The characters before the unit, and the bytes that the unit stands for. -/
def splitUnit (cs : List Char) : List Char × Nat :=
  match units.findSome? fun u => (stripEnd? u.1 cs).map (·, u.2) with
  | some r => r
  | none => (cs, 1)

/-- Reads a size from characters, as `size` does. -/
def sizeOfChars (cs : List Char) : Except Error Nat :=
  let trimmed := Text.trimChars cs
  let parts := splitUnit trimmed
  match numberOfChars parts.1 with
  | .error e => .error e
  | .ok n =>
    if n * parts.2 < UInt64.size then .ok (n * parts.2)
    else .error (.sizeTooLarge (String.ofList trimmed))

/-- Reads a size. -/
def size (s : String) : Except Error Nat := sizeOfChars s.toList

end Offload.Numeral
