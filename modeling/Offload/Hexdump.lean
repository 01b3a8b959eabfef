/-
**Dumps of bytes.**

A dump shows sixteen bytes a line: the offset of the first of them, the bytes in hexadecimal, and
after a bar the same bytes as text, with a dot for whatever is not a printable ASCII character.

Main definitions:

* `Hexdump.lines` — the lines of sixteen bytes that a list is cut into;
* `Hexdump.row` — one line of a dump;
* `Hexdump.render` — a whole dump.

Main results:

* `Hexdump.lines_flatten` — cutting into lines loses nothing;
* `Hexdump.length_lines` — there is one line for every sixteen bytes begun.
-/

import Offload.Text.Hex

set_option relaxedAutoImplicit false
set_option autoImplicit false

namespace Offload.Hexdump

/-- The bytes shown on one line. -/
def width : Nat := 16

/-- The list, cut into lines; only the last may be shorter than a full line. -/
def lines : List UInt8 → List (List UInt8)
  | [] => []
  | b :: rest => (b :: rest.take (width - 1)) :: lines (rest.drop (width - 1))
termination_by bytes => bytes.length
decreasing_by
  rw [List.length_drop, List.length_cons]
  omega

@[simp] theorem lines_nil : lines [] = [] := by simp [lines]

theorem lines_cons (b : UInt8) (rest : List UInt8) :
    lines (b :: rest) = (b :: rest.take 15) :: lines (rest.drop 15) := by
  rw [lines, width]

/-- Cutting into lines loses nothing. -/
@[simp] theorem lines_flatten (bytes : List UInt8) : (lines bytes).flatten = bytes := by
  fun_induction lines bytes with
  | case1 => rfl
  | case2 b rest ih => simp [ih]

/-- There is one line for every sixteen bytes begun. -/
theorem length_lines (bytes : List UInt8) : (lines bytes).length = (bytes.length + 15) / 16 := by
  fun_induction lines bytes with
  | case1 => rfl
  | case2 b rest ih =>
      rw [List.length_cons, ih, List.length_drop, List.length_cons, width]
      omega

/-- The character that stands for a byte in the text column. -/
def glyph (b : UInt8) : Char := if 32 ≤ b ∧ b ≤ 126 then Char.ofNat b.toNat else '.'

/-- A byte in the column of numbers: a blank and two digits. -/
def cell (b : UInt8) : List Char := ' ' :: Text.paddedHexChars 2 b.toNat

/-- One line of a dump: the offset, sixteen cells of which those without a byte are blank, and the
text. -/
def row (offset : Nat) (line : List UInt8) : List Char :=
  Text.paddedHexChars 8 offset ++ [':'] ++ line.flatMap cell ++
    List.replicate (3 * (width - line.length)) ' ' ++ [' ', '|', ' '] ++ line.map glyph

/-- The rows of consecutive lines, each with a line break after it. -/
def rows : Nat → List (List UInt8) → List Char
  | _, [] => []
  | offset, line :: rest => row offset line ++ ['\n'] ++ rows (offset + width) rest

/-- The dump of a list of bytes whose first byte has the given offset. -/
def renderChars (bytes : List UInt8) (base : Nat) : List Char := rows base (lines bytes)

/-- The dump of a list of bytes, as text. -/
def render (bytes : List UInt8) (base : Nat) : String := String.ofList (renderChars bytes base)

end Offload.Hexdump
