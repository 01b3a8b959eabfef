/-
**Numbers as they are read, against the conversion that C has for them.**

The conversion of C skips blanks, takes a sign, lets the prefix choose the radix and reads as many
digits as there are.  What is read as a number here is a number of C, whole, and has the value that
the conversion gives it, unless the sign is astray.  A sign behind the prefix is no number of C at
all, and a sign in front of a leading zero hides the octal digits, which are then taken for decimal
ones.

Main definitions:

* `Numeral.strtoul` — the conversion of C, with the radix taken from the text;
* `Numeral.Signed` — a literal with an optional plus sign in front of it;
* `Numeral.SignAstray` — the texts in which the sign is misread.

Main results:

* `Numeral.strtoul_signed` — the conversion of a literal, with a plus sign or without;
* `Numeral.number_conforms_iff` — **a number is read as C has it exactly if its sign is not astray**;
* `Numeral.number_misreads_sign` — a sign that is misread.
-/

import Offload.Proofs.Numeral.Literal
import Mathlib.Data.List.TakeWhile

set_option relaxedAutoImplicit false
set_option autoImplicit false

namespace Offload.Numeral

variable {radix n : Nat} {cs ds text : List Char}

/-! ### The conversion -/

/-- The blanks that the conversion skips. -/
def isSpace (c : Char) : Bool := c == ' ' || ('\t' ≤ c && c ≤ '\r')

/-- The digits that a text begins with, as a number, and the rest of it. -/
def leading? (radix : Nat) (cs : List Char) : Option (Nat × List Char) :=
  let ds := cs.takeWhile (figure · < radix)
  if ds.isEmpty then none
  else some (Nat.ofDigits radix (ds.reverse.map figure), cs.dropWhile (figure · < radix))

/-- The radix that a text announces, and the text from its digits on.  The mark of hexadecimal
digits counts only if such a digit comes after it. -/
def announced : List Char → Nat × List Char
  | '0' :: mark :: c :: cs =>
    if (mark = 'x' ∨ mark = 'X') ∧ figure c < 16 then (16, c :: cs) else (8, '0' :: mark :: c :: cs)
  | '0' :: cs => (8, '0' :: cs)
  | cs => (10, cs)

/-- Is there a minus sign, and the text behind the sign. -/
def signed : List Char → Bool × List Char
  | '-' :: cs => (true, cs)
  | '+' :: cs => (false, cs)
  | cs => (false, cs)

/-- The number that a text begins with, in 64 bits, and the rest of the text.  What is too large
becomes the greatest number, what has a minus sign its complement; a text that begins with no number
is left alone. -/
def strtoul (cs : List Char) : Nat × List Char :=
  let body := signed (cs.dropWhile isSpace)
  let start := announced body.2
  match leading? start.1 start.2 with
  | none => (0, cs)
  | some (n, rest) =>
    if UInt64.size ≤ n then (UInt64.size - 1, rest)
    else if body.1 then ((UInt64.size - n) % UInt64.size, rest)
    else (n, rest)

/-! ### The conversion of a literal -/

/-- A literal with an optional plus sign in front of it. -/
def Signed (text : List Char) (n : Nat) : Prop :=
  ∃ cs, (text = cs ∨ text = '+' :: cs) ∧ Literal cs n

theorem leading?_writes (h : Writes radix ds n) : leading? radix ds = some (n, []) := by
  have htake : ds.takeWhile (figure · < radix) = ds :=
    List.takeWhile_eq_self_iff.2 fun c hc => decide_eq_true (h.figure_lt c hc)
  have hdrop : ds.dropWhile (figure · < radix) = [] :=
    List.dropWhile_eq_nil_iff.2 fun c hc => decide_eq_true (h.figure_lt c hc)
  rw [leading?, htake, hdrop, h.value, if_neg (by simpa using h.ne_nil)]

theorem announced_literal (h : Literal cs n) :
    ∃ radix ds, announced cs = (radix, ds) ∧ Writes radix ds n := by
  cases h with
  | @hexadecimal mark ds _ hmark h =>
      cases ds with
      | nil => exact absurd rfl h.ne_nil
      | cons c ds => exact ⟨16, c :: ds, if_pos ⟨hmark, h.figure_lt c (by simp)⟩, h⟩
  | @octal ds _ h =>
      match ds, h with
      | [], h => exact ⟨8, _, rfl, h⟩
      | [c], h => exact ⟨8, _, rfl, h⟩
      | mark :: c :: ds, h =>
          exact ⟨8, _, if_neg fun hmark => absurd hmark.1 (not_or.2 h.not_marked), h⟩
  | @decimal ds _ hlead h =>
      refine ⟨10, cs, ?_, h⟩
      fun_cases announced cs with
      | case1 => exact absurd rfl hlead
      | case2 => exact absurd rfl hlead
      | case3 => exact absurd rfl hlead
      | case4 => rfl

/-- **The conversion of a literal is its number**, whether there is a plus sign or not, and nothing
is left of the text. -/
theorem strtoul_signed (h : Signed text n) (hn : n < UInt64.size) : strtoul text = (n, []) := by
  have hplain : alphabet.all (fun c => !isSpace c && c != '-' && c != '+') = true := by decide
  obtain ⟨cs, htext, hcs⟩ := h
  have hbody : signed (text.dropWhile isSpace) = (false, cs) := by
    rcases htext with rfl | rfl
    · obtain ⟨c, rest, rfl⟩ := List.exists_cons_of_ne_nil hcs.ne_nil
      have hc := List.all_eq_true.1 hplain c (hcs.mem_alphabet c (by simp))
      obtain ⟨⟨hspace, hminus⟩, hplus⟩ : (isSpace c = false ∧ c ≠ '-') ∧ c ≠ '+' := by
        simpa using hc
      rw [List.dropWhile_cons_of_neg (by simp [hspace])]
      rw [signed]
      · exact fun _ heq => hminus (List.cons.inj heq).1
      · exact fun _ heq => hplus (List.cons.inj heq).1
    · rfl
  obtain ⟨radix, ds, hannounced, hds⟩ := announced_literal hcs
  rw [strtoul, hbody]
  simp only [hannounced, leading?_writes hds]
  rw [if_neg (Nat.not_le.2 hn)]
  rfl

/-! ### What is read -/

/-- The texts in which the sign is misread: it stands behind the prefix, or in front of a zero that
announces octal digits, and these are not what they are read as, decimal digits. -/
inductive SignAstray : List Char → Prop
  | behindMark {mark : Char} {ds : List Char} (hmark : mark = 'x' ∨ mark = 'X') :
      SignAstray ('0' :: mark :: '+' :: ds)
  | behindZero {ds : List Char} : SignAstray ('0' :: '+' :: ds)
  | beforeZero {ds : List Char} (h : ∀ n, Writes 10 ('0' :: ds) n → ¬ Writes 8 ('0' :: ds) n) :
      SignAstray ('+' :: '0' :: ds)

theorem SignAstray.plus_mem (h : SignAstray text) : '+' ∈ text := by
  cases h <;> simp

theorem Literal.plus_not_mem (h : Literal cs n) : '+' ∉ cs :=
  fun hmem => absurd (h.mem_alphabet '+' hmem) (by decide)

theorem not_signed_of_zero (hplus : '+' ∈ cs) : ¬ Signed ('0' :: cs) n := by
  rintro ⟨body, rfl | hbody, h⟩
  · exact h.plus_not_mem (List.mem_cons_of_mem _ hplus)
  · cases hbody

/-- Digits behind a plus sign are a literal exactly if they have no leading zero, or one that does
not matter. -/
theorem signed_iff_of_decimal (h : Writes 10 ds n) :
    Signed ('+' :: ds) n ↔ ¬ SignAstray ('+' :: ds) := by
  constructor
  · rintro ⟨cs, rfl | hcs, hlit⟩ hastray
    · exact hlit.plus_not_mem (by simp)
    · cases hcs
      cases hastray with
      | beforeZero hdiffers =>
          cases hlit with
          | @hexadecimal mark ds _ hmark _ =>
              have hlt := h.figure_lt mark (by simp)
              rcases hmark with rfl | rfl
              · exact absurd hlt (by decide)
              · exact absurd hlt (by decide)
          | octal hoctal => exact hdiffers n h hoctal
          | decimal hlead => exact hlead rfl
  · intro hnot
    refine ⟨ds, Or.inr rfl, ?_⟩
    by_cases hlead : ds.head? = some '0'
    · obtain ⟨rest, rfl⟩ := List.head?_eq_some_iff.1 hlead
      by_contra hlit
      refine hnot (.beforeZero ?_)
      intro n' h' hoctal
      obtain rfl : n = n' := h.value.symm.trans h'.value
      exact hlit (.octal hoctal)
    · exact .decimal hlead h

/-- **A number is read as C has it exactly if its sign is not astray**: then the text without the
blanks around it is a number of C as a whole, and the conversion gives the number that is read. -/
theorem number_conforms_iff {s : String} (h : number s = .ok n) :
    (Signed (Text.trimChars s.toList) n ∧ strtoul (Text.trimChars s.toList) = (n, [])) ↔
      ¬ SignAstray (Text.trimChars s.toList) := by
  obtain ⟨haccepted, hn⟩ := numberOfChars_eq_ok_iff.1 h
  rw [and_iff_left_of_imp fun hsigned => strtoul_signed hsigned hn]
  generalize Text.trimChars s.toList = text at haccepted
  cases haccepted with
  | literal h =>
      exact iff_of_true ⟨text, Or.inl rfl, h⟩ fun hastray => h.plus_not_mem hastray.plus_mem
  | signedDecimal h => exact signed_iff_of_decimal h
  | signedHexadecimal hmark h =>
      exact iff_of_false (not_signed_of_zero (by simp)) (not_not_intro (.behindMark hmark))
  | signedOctal h =>
      exact iff_of_false (not_signed_of_zero (by simp)) (not_not_intro .behindZero)

/-- A number with a sign in front of it and blanks around both. -/
theorem number_conforms_plus :
    number " +4095\t" = .ok 4095 ∧ Text.trimChars " +4095\t".toList = "+4095".toList ∧
      Signed "+4095".toList 4095 ∧ strtoul "+4095".toList = (4095, []) := by
  have hread : number " +4095\t" = .ok 4095 := by decide +kernel
  have htrim : Text.trimChars " +4095\t".toList = "+4095".toList := by decide +kernel
  have hiff := number_conforms_iff hread
  rw [htrim] at hiff
  have hnot : ¬ SignAstray "+4095".toList := nofun
  exact ⟨hread, htrim, hiff.2 hnot⟩

/-- A sign that hides the octal digits, and one behind the prefix of hexadecimal digits. -/
theorem number_misreads_sign :
    (number "+010" = .ok 10 ∧ strtoul (Text.trimChars "+010".toList) = (8, [])) ∧
      number "0x+f" = .ok 15 ∧ ∀ n, ¬ Signed (Text.trimChars "0x+f".toList) n := by
  have htrim : Text.trimChars "0x+f".toList = '0' :: "x+f".toList := by decide +kernel
  refine ⟨⟨by decide +kernel, by decide +kernel⟩, by decide +kernel, ?_⟩
  intro n
  rw [htrim]
  exact not_signed_of_zero (by decide)

end Offload.Numeral
