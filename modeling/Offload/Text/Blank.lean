/-
**Blanks, and texts without the blanks around them.**

A blank is a character with the Unicode property `White_Space`: 25 characters, among them the line
breaks and the no-break space.  Values on the command line and in the environment are read without
the blanks around them.

Main definitions:

* `Text.isBlank` — the blanks;
* `Text.trimChars`, `Text.trim` — a text without the blanks at its two ends.

Main results:

* `Text.isBlank_of_isWhitespace` — the blanks include those of ASCII;
* `Text.trimChars_eq_self` — a text that neither starts nor ends with a blank is kept;
* `Text.trimChars_append_left`, `Text.trimChars_append_right` — blanks at the ends do not count.
-/

set_option relaxedAutoImplicit false
set_option autoImplicit false

namespace Offload.Text

/-- Has the character the property `White_Space`? -/
def isBlank (c : Char) : Bool :=
  let n := c.toNat
  (9 ≤ n && n ≤ 13) || n == 0x20 || n == 0x85 || n == 0xa0 || n == 0x1680 ||
    (0x2000 ≤ n && n ≤ 0x200a) || n == 0x2028 || n == 0x2029 || n == 0x202f || n == 0x205f ||
    n == 0x3000

theorem isBlank_of_isWhitespace {c : Char} (h : c.isWhitespace = true) : isBlank c = true := by
  simp only [Char.isWhitespace, Bool.or_eq_true, decide_eq_true_eq] at h
  rcases h with ((rfl | rfl) | rfl) | rfl <;> decide

/-- The characters without the blanks at the two ends. -/
def trimChars (cs : List Char) : List Char :=
  ((cs.dropWhile isBlank).reverse.dropWhile isBlank).reverse

theorem trimChars_eq_self {cs : List Char} (hd : ∀ c ∈ cs.head?, isBlank c = false)
    (tl : ∀ c ∈ cs.getLast?, isBlank c = false) : trimChars cs = cs := by
  have drop {l : List Char} (h : ∀ c ∈ l.head?, isBlank c = false) : l.dropWhile isBlank = l := by
    cases l with
    | nil => rfl
    | cons c l => simp [h c (by simp)]
  rw [trimChars, drop hd, drop (by simpa using tl), List.reverse_reverse]

theorem trimChars_append_left {before : List Char} (h : ∀ c ∈ before, isBlank c = true)
    (cs : List Char) : trimChars (before ++ cs) = trimChars cs := by
  rw [trimChars, List.dropWhile_append_of_pos h, trimChars]

theorem dropWhile_blanks {cs : List Char} (h : ∀ c ∈ cs, isBlank c = true) :
    cs.dropWhile isBlank = [] := by
  rw [← List.append_nil cs, List.dropWhile_append_of_pos h, List.dropWhile_nil]

theorem trimChars_append_right {after : List Char} (h : ∀ c ∈ after, isBlank c = true)
    (cs : List Char) : trimChars (cs ++ after) = trimChars cs := by
  rw [trimChars, List.dropWhile_append, trimChars]
  cases cs.dropWhile isBlank with
  | nil => rw [List.isEmpty_nil, if_pos rfl, dropWhile_blanks h]
  | cons c rest =>
      rw [List.isEmpty_cons, if_neg Bool.false_ne_true, List.reverse_append,
        List.dropWhile_append_of_pos (by simpa using h)]

/-- The text without the blanks at its two ends. -/
def trim (s : String) : String := String.ofList (trimChars s.toList)

end Offload.Text
