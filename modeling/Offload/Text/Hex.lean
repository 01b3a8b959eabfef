/-
**Hexadecimal numerals.**

Addresses, return codes and bytes are written in lower-case hexadecimal, most of them padded with
zeros on the left.

Main definitions:

* `Text.hexChars`, `Text.hex` — a number with no leading zeros;
* `Text.paddedHexChars`, `Text.paddedHex` — a number with at least a given count of digits.

Main results:

* `Text.exists_digit_of_mem_hexChars` — a number is written in digits;
* `Text.length_paddedHexChars` — the padding fills up to the width and never cuts.
-/

set_option relaxedAutoImplicit false
set_option autoImplicit false

namespace Offload.Text

/-- The hexadecimal digits of a number, most significant first; zero has one digit. -/
def hexChars (n : Nat) : List Char := Nat.toDigits 16 n

/-- A number is written in hexadecimal digits. -/
theorem exists_digit_of_mem_hexChars {c : Char} {n : Nat} (h : c ∈ hexChars n) :
    ∃ d : Fin 16, c = Nat.digitChar d := by
  induction n using Nat.strongRecOn with
  | _ n ih =>
      rw [hexChars, Nat.toDigits_eq_if (by decide)] at h
      split at h
      · next hn => exact ⟨⟨n, hn⟩, List.mem_singleton.1 h⟩
      · rcases List.mem_append.1 h with h | h
        · exact ih (n / 16) (by omega) h
        · exact ⟨⟨n % 16, Nat.mod_lt n (by decide)⟩, List.mem_singleton.1 h⟩

/-- The hexadecimal digits of a number, with zeros in front up to `width` digits. -/
def paddedHexChars (width n : Nat) : List Char :=
  List.replicate (width - (hexChars n).length) '0' ++ hexChars n

theorem length_paddedHexChars (width n : Nat) :
    (paddedHexChars width n).length = max width (hexChars n).length := by
  simp [paddedHexChars]
  omega

/-- A number in hexadecimal. -/
def hex (n : Nat) : String := String.ofList (hexChars n)

/-- A number in hexadecimal with at least `width` digits. -/
def paddedHex (width n : Nat) : String := String.ofList (paddedHexChars width n)

end Offload.Text
