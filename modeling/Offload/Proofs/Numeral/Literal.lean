/-
**Numbers as C writes them, and the texts that are read as numbers.**

An unsigned number is written in hexadecimal after `0x` or `0X`, in octal after a leading `0` and in
decimal otherwise, and it stands for the positional value of its digits.  Every such text is read as
the number that it stands for, as long as that fits in 64 bits.  A plus sign is let through wherever
the digits begin: in front of a decimal number, but also behind the prefix of the other two.

Main definitions:

* `Numeral.figure` — the place of a character among the digits;
* `Numeral.Writes` — digits write a number in a radix;
* `Numeral.Literal` — a text is an unsigned number as C writes it;
* `Numeral.Accepted` — a text is read as a number, if the number fits.

Main results:

* `Numeral.readDigits_eq_ok_iff` — digits are read as the number that they write;
* `Numeral.readNumber_eq_ok_iff`, `Numeral.numberOfChars_eq_ok_iff` — **exactly the accepted texts
  are read**;
* `Numeral.Accepted.unique` — an accepted text stands for one number.
-/

import Offload.Numeral
import Mathlib.Data.Nat.Digits.Defs

set_option relaxedAutoImplicit false
set_option autoImplicit false

namespace Offload.Numeral

variable {radix acc n n' : Nat} {c mark : Char} {cs ds : List Char}

/-! ### Digits -/

/-- The place of a character among the sixteen digits, letters in either case; all other characters
come after them. -/
def figure (c : Char) : Nat := "0123456789abcdef".toList.idxOf c.toLower

/-- The characters write a number in a radix: there is at least one, all are digits, the most
significant first, and the number is their positional value. -/
structure Writes (radix : Nat) (ds : List Char) (n : Nat) : Prop where
  ne_nil : ds ≠ []
  figure_lt : ∀ c ∈ ds, figure c < radix
  value : Nat.ofDigits radix (ds.reverse.map figure) = n

instance : Decidable (Writes radix ds n) :=
  decidable_of_iff
    (ds ≠ [] ∧ ds.all (figure · < radix) = true ∧ Nat.ofDigits radix (ds.reverse.map figure) = n)
    ⟨fun ⟨hne, hall, hvalue⟩ =>
      ⟨hne, fun c hc => of_decide_eq_true (List.all_eq_true.1 hall c hc), hvalue⟩,
     fun ⟨hne, hlt, hvalue⟩ =>
      ⟨hne, List.all_eq_true.2 fun c hc => decide_eq_true (hlt c hc), hvalue⟩⟩

/-- Outside of ASCII there are no digits. -/
theorem figure_of_not_ascii (h : 128 ≤ c.toNat) : figure c = 16 := by
  have hlower : c.toLower = c := by
    refine dif_neg ?_
    rintro ⟨-, hle⟩
    have hle' : c.toNat ≤ 90 := UInt32.le_iff_toNat_le.1 hle
    omega
  have hmem : c ∉ "0123456789abcdef".toList := by
    intro hmem
    have hascii : "0123456789abcdef".toList.all (·.toNat < 128) = true := by decide
    have hlt := of_decide_eq_true (List.all_eq_true.1 hascii c hmem)
    omega
  rw [figure, hlower, List.idxOf_eq_length hmem]
  rfl

theorem digitValue?_of_not_ascii (h : 128 ≤ c.toNat) (radix : Nat) :
    digitValue? radix c = none := by
  have habove (d : Char) (hd : d.toNat < 128) : ¬ c ≤ d := by
    intro hle
    have hle' : c.toNat ≤ d.toNat := hle
    omega
  simp [digitValue?, habove '9' (by decide), habove 'z' (by decide), habove 'Z' (by decide)]

/-- A character is read as a digit exactly if it is one. -/
theorem digitValue?_eq (hradix : radix ≤ 16) (c : Char) :
    digitValue? radix c = if figure c < radix then some (figure c) else none := by
  rcases Nat.lt_or_ge c.toNat 128 with hc | hc
  · have hascii : ∀ (k : Fin 128) (r : Fin 17), digitValue? r (Char.ofNat k) =
        if figure (Char.ofNat k) < r then some (figure (Char.ofNat k)) else none := by
      decide +kernel
    have hk := hascii ⟨c.toNat, hc⟩ ⟨radix, by omega⟩
    rwa [Char.ofNat_toNat] at hk
  · rw [digitValue?_of_not_ascii hc, figure_of_not_ascii hc, if_neg (by omega)]

theorem value_cons (radix : Nat) (c : Char) (cs : List Char) :
    Nat.ofDigits radix ((c :: cs).reverse.map figure) =
      figure c * radix ^ cs.length + Nat.ofDigits radix (cs.reverse.map figure) := by
  rw [List.reverse_cons, List.map_append, Nat.ofDigits_append, List.length_map,
    List.length_reverse, List.map_singleton, Nat.ofDigits_singleton, Nat.mul_comm, Nat.add_comm]

/-- **Digits are read as the number that they write**, behind the digits that were read before. -/
theorem readDigits_eq_ok_iff (hpos : 0 < radix) (hradix : radix ≤ 16) (hacc : acc < UInt64.size) :
    readDigits radix acc cs = .ok n ↔
      (∀ c ∈ cs, figure c < radix) ∧ n < UInt64.size ∧
        acc * radix ^ cs.length + Nat.ofDigits radix (cs.reverse.map figure) = n := by
  induction cs generalizing acc with
  | nil =>
      simp only [readDigits, Except.ok.injEq, List.not_mem_nil, false_imp_iff, implies_true,
        true_and, List.length_nil, List.reverse_nil, List.map_nil, Nat.ofDigits_nil, pow_zero,
        Nat.mul_one, Nat.add_zero]
      exact ⟨fun h => ⟨h ▸ hacc, h⟩, And.right⟩
  | cons c cs ih =>
      have hvalue : acc * radix ^ (c :: cs).length +
            Nat.ofDigits radix ((c :: cs).reverse.map figure) =
          (acc * radix + figure c) * radix ^ cs.length +
            Nat.ofDigits radix (cs.reverse.map figure) := by
        rw [value_cons, List.length_cons]
        ring
      rw [readDigits, digitValue?_eq hradix, List.forall_mem_cons, hvalue]
      by_cases hc : figure c < radix
      · rw [if_pos hc]
        by_cases hlt : acc * radix + figure c < UInt64.size
        · simp only [if_pos hlt, ih hlt, hc, true_and]
        · -- What is too large already does not become smaller by more digits.
          have hgrows : acc * radix + figure c ≤
              (acc * radix + figure c) * radix ^ cs.length :=
            Nat.le_mul_of_pos_right _ (Nat.pow_pos hpos)
          simp only [if_neg hlt, reduceCtorEq, false_iff]
          rintro ⟨-, hn, heq⟩
          omega
      · simp [hc]

/-- What is no digit, such as a plus sign, does not occur among digits. -/
theorem Writes.not_mem (h : Writes radix ds n) (hc : 16 ≤ figure c) (hradix : radix ≤ 16) :
    c ∉ ds := by
  intro hmem
  have hlt := h.figure_lt c hmem
  omega

theorem readDigits_writes (hpos : 0 < radix) (hradix : radix ≤ 16) (hne : cs ≠ []) :
    readDigits radix 0 cs = .ok n ↔ Writes radix cs n ∧ n < UInt64.size := by
  rw [readDigits_eq_ok_iff hpos hradix (by decide), Nat.zero_mul, Nat.zero_add]
  constructor
  · rintro ⟨hfigures, hn, hvalue⟩
    exact ⟨⟨hne, hfigures, hvalue⟩, hn⟩
  · rintro ⟨h, hn⟩
    exact ⟨h.figure_lt, hn, h.value⟩

/-- Digits are read with a plus sign in front of them or without. -/
theorem readUnsigned_eq_ok_iff (hpos : 0 < radix) (hradix : radix ≤ 16) :
    readUnsigned radix cs = .ok n ↔
      (∃ ds, (cs = ds ∨ cs = '+' :: ds) ∧ Writes radix ds n) ∧ n < UInt64.size := by
  have hplus : 16 ≤ figure '+' := by decide
  fun_cases readUnsigned radix cs with
  | case1 =>
      simp only [reduceCtorEq, false_iff]
      rintro ⟨⟨ds, hds | hds, h⟩, -⟩
      · exact h.ne_nil hds.symm
      · cases hds
  | case2 =>
      simp only [reduceCtorEq, false_iff]
      rintro ⟨⟨ds, rfl | hds, h⟩, -⟩
      · exact h.not_mem hplus hradix (by simp)
      · cases hds
        exact h.ne_nil rfl
  | case3 ds hne =>
      rw [readDigits_writes hpos hradix (by simpa using hne)]
      constructor
      · exact fun ⟨h, hn⟩ => ⟨⟨ds, Or.inr rfl, h⟩, hn⟩
      · rintro ⟨⟨ds', rfl | hds, h⟩, hn⟩
        · exact absurd (by simp) (h.not_mem hplus hradix)
        · cases hds
          exact ⟨h, hn⟩
  | case4 _ hne _ hnot =>
      rw [readDigits_writes hpos hradix hne]
      constructor
      · exact fun ⟨h, hn⟩ => ⟨⟨cs, Or.inl rfl, h⟩, hn⟩
      · rintro ⟨⟨ds, rfl | hds, h⟩, hn⟩
        · exact ⟨h, hn⟩
        · exact absurd hds (hnot ds)

/-! ### Literals -/

/-- The text is an unsigned number as C writes it, and it stands for the given number. -/
inductive Literal : List Char → Nat → Prop
  | hexadecimal {mark : Char} {ds : List Char} {n : Nat} (hmark : mark = 'x' ∨ mark = 'X')
      (h : Writes 16 ds n) : Literal ('0' :: mark :: ds) n
  | octal {ds : List Char} {n : Nat} (h : Writes 8 ('0' :: ds) n) : Literal ('0' :: ds) n
  | decimal {ds : List Char} {n : Nat} (hlead : ds.head? ≠ some '0') (h : Writes 10 ds n) :
      Literal ds n

/-- The text is read as the given number: it is a literal, or digits behind a plus sign, which
themselves stand where the digits of a literal would. -/
inductive Accepted : List Char → Nat → Prop
  | literal {cs : List Char} {n : Nat} (h : Literal cs n) : Accepted cs n
  | signedDecimal {ds : List Char} {n : Nat} (h : Writes 10 ds n) : Accepted ('+' :: ds) n
  | signedHexadecimal {mark : Char} {ds : List Char} {n : Nat} (hmark : mark = 'x' ∨ mark = 'X')
      (h : Writes 16 ds n) : Accepted ('0' :: mark :: '+' :: ds) n
  | signedOctal {ds : List Char} {n : Nat} (h : Writes 8 ds n) : Accepted ('0' :: '+' :: ds) n

/-- A leading zero changes nothing. -/
theorem writes_zero_cons (hpos : 0 < radix) (hne : ds ≠ []) :
    Writes radix ('0' :: ds) n ↔ Writes radix ds n := by
  have hzero : figure '0' = 0 := by decide
  have hvalue := value_cons radix '0' ds
  rw [hzero, Nat.zero_mul, Nat.zero_add] at hvalue
  constructor
  · rintro ⟨-, hfigures, rfl⟩
    exact ⟨hne, (List.forall_mem_cons.1 hfigures).2, hvalue.symm⟩
  · rintro ⟨-, hfigures, rfl⟩
    exact ⟨List.cons_ne_nil _ _, List.forall_mem_cons.2 ⟨hzero ▸ hpos, hfigures⟩, hvalue⟩

/-- The mark of hexadecimal digits is no octal digit. -/
theorem Writes.not_marked (h : Writes 8 ('0' :: mark :: ds) n) : mark ≠ 'x' ∧ mark ≠ 'X' := by
  have hlt := h.figure_lt mark (by simp)
  constructor
  · rintro rfl
    exact absurd hlt (by decide)
  · rintro rfl
    exact absurd hlt (by decide)

/-- A lone zero is zero in every radix. -/
theorem writes_zero_iff (hpos : 0 < radix) : Writes radix ['0'] n ↔ n = 0 := by
  have hzero : figure '0' = 0 := by decide
  constructor
  · rintro ⟨-, -, rfl⟩
    rw [List.reverse_singleton, List.map_singleton, Nat.ofDigits_singleton, hzero]
  · rintro rfl
    exact ⟨List.cons_ne_nil _ _, by simpa [hzero] using hpos, by simp [hzero]⟩

/-! ### What is accepted -/

theorem accepted_marked_iff (hmark : mark = 'x' ∨ mark = 'X') :
    Accepted ('0' :: mark :: cs) n ↔ ∃ ds, (cs = ds ∨ cs = '+' :: ds) ∧ Writes 16 ds n := by
  constructor
  · intro h
    cases h with
    | literal h =>
        cases h with
        | hexadecimal _ h => exact ⟨cs, Or.inl rfl, h⟩
        | octal h => exact absurd hmark (not_or.2 h.not_marked)
        | decimal hlead => exact absurd rfl hlead
    | signedHexadecimal _ h => exact ⟨_, Or.inr rfl, h⟩
    | signedOctal => rcases hmark with hmark | hmark <;> cases hmark
  · rintro ⟨ds, rfl | rfl, h⟩
    · exact .literal (.hexadecimal hmark h)
    · exact .signedHexadecimal hmark h

theorem accepted_octal_iff (hmark : ¬ (c = 'x' ∨ c = 'X')) :
    Accepted ('0' :: c :: cs) n ↔ ∃ ds, (c :: cs = ds ∨ c :: cs = '+' :: ds) ∧ Writes 8 ds n := by
  constructor
  · intro h
    cases h with
    | literal h =>
        cases h with
        | hexadecimal hmark' => exact absurd hmark' hmark
        | octal h => exact ⟨_, Or.inl rfl, (writes_zero_cons (by decide) (by simp)).1 h⟩
        | decimal hlead => exact absurd rfl hlead
    | signedHexadecimal hmark' => exact absurd hmark' hmark
    | signedOctal h => exact ⟨_, Or.inr rfl, h⟩
  · rintro ⟨ds, rfl | hds, h⟩
    · exact .literal (.octal ((writes_zero_cons (by decide) h.ne_nil).2 h))
    · cases hds
      exact .signedOctal h

/-- Without a prefix the digits are decimal; a lone zero might as well be octal. -/
theorem accepted_decimal_iff (hbare : ∀ c rest, cs ≠ '0' :: c :: rest) :
    Accepted cs n ↔ ∃ ds, (cs = ds ∨ cs = '+' :: ds) ∧ Writes 10 ds n := by
  constructor
  · intro h
    cases h with
    | literal h =>
        cases h with
        | hexadecimal => exact absurd rfl (hbare _ _)
        | @octal ds _ h =>
            cases ds with
            | nil =>
                rw [writes_zero_iff (by decide)] at h
                exact ⟨_, Or.inl rfl, (writes_zero_iff (by decide)).2 h⟩
            | cons => exact absurd rfl (hbare _ _)
        | decimal _ h => exact ⟨_, Or.inl rfl, h⟩
    | signedDecimal h => exact ⟨_, Or.inr rfl, h⟩
    | signedHexadecimal => exact absurd rfl (hbare _ _)
    | signedOctal => exact absurd rfl (hbare _ _)
  · rintro ⟨ds, rfl | rfl, h⟩
    · by_cases hlead : cs.head? = some '0'
      · obtain ⟨rest, rfl⟩ := List.head?_eq_some_iff.1 hlead
        cases rest with
        | nil =>
            rw [writes_zero_iff (by decide)] at h
            exact .literal (.octal ((writes_zero_iff (by decide)).2 h))
        | cons => exact absurd rfl (hbare _ _)
      · exact .literal (.decimal hlead h)
    · exact .signedDecimal h

/-- A text is accepted if digits of the radix that it announces are left of it, with a plus sign in
front of them or without. -/
theorem accepted_iff :
    Accepted cs n ↔
      ∃ ds, ((split cs).2 = ds ∨ (split cs).2 = '+' :: ds) ∧ Writes (split cs).1 ds n := by
  fun_cases split cs with
  | case1 cs => exact accepted_marked_iff (Or.inl rfl)
  | case2 cs => exact accepted_marked_iff (Or.inr rfl)
  | case3 c cs hx hX => exact accepted_octal_iff (not_or.2 ⟨hx, hX⟩)
  | case4 _ _ _ hbare => exact accepted_decimal_iff hbare

theorem split_radix (cs : List Char) : 0 < (split cs).1 ∧ (split cs).1 ≤ 16 := by
  fun_cases split cs <;> simp

/-- An accepted text stands for one number. -/
theorem Accepted.unique (h : Accepted cs n) (h' : Accepted cs n') : n = n' := by
  have hplus : 16 ≤ figure '+' := by decide
  have hradix := (split_radix cs).2
  obtain ⟨ds, hds, hw⟩ := accepted_iff.1 h
  obtain ⟨ds', hds', hw'⟩ := accepted_iff.1 h'
  have hsame : ds = ds' := by
    rcases hds with hds | hds <;> rcases hds' with hds' | hds'
    · exact hds.symm.trans hds'
    · exact absurd (by simp [← hds, hds']) (hw.not_mem hplus hradix)
    · exact absurd (by simp [← hds', hds]) (hw'.not_mem hplus hradix)
    · exact (List.cons.inj (hds.symm.trans hds')).2
  subst hsame
  exact hw.value.symm.trans hw'.value

/-- **Exactly the accepted texts are read**, as the numbers that they stand for, if those fit. -/
theorem readNumber_eq_ok_iff : readNumber cs = .ok n ↔ Accepted cs n ∧ n < UInt64.size := by
  rw [readNumber, readUnsigned_eq_ok_iff (split_radix cs).1 (split_radix cs).2, accepted_iff]

theorem numberOfChars_eq_ok_iff :
    numberOfChars cs = .ok n ↔ Accepted (Text.trimChars cs) n ∧ n < UInt64.size := by
  rw [← readNumber_eq_ok_iff, numberOfChars]
  cases readNumber (Text.trimChars cs) <;> simp

/-! ### The characters of a literal -/

/-- The characters that occur in literals. -/
def alphabet : List Char := "0123456789abcdefABCDEFxX".toList

theorem mem_alphabet_of_figure_lt (h : figure c < 16) : c ∈ alphabet := by
  have hascii : ∀ k : Fin 128, figure (Char.ofNat k) < 16 → Char.ofNat k ∈ alphabet := by
    decide +kernel
  have hc : c.toNat < 128 := by
    by_contra hc
    rw [figure_of_not_ascii (Nat.le_of_not_lt hc)] at h
    omega
  have hk := hascii ⟨c.toNat, hc⟩
  rw [Char.ofNat_toNat] at hk
  exact hk h

theorem Writes.mem_alphabet (h : Writes radix ds n) (hradix : radix ≤ 16) :
    ∀ c ∈ ds, c ∈ alphabet := by
  intro c hc
  exact mem_alphabet_of_figure_lt (Nat.lt_of_lt_of_le (h.figure_lt c hc) hradix)

theorem Literal.mem_alphabet (h : Literal cs n) : ∀ c ∈ cs, c ∈ alphabet := by
  cases h with
  | @hexadecimal mark _ _ hmark h =>
      have hmark' : mark ∈ alphabet := by rcases hmark with rfl | rfl <;> decide
      exact List.forall_mem_cons.2
        ⟨by decide, List.forall_mem_cons.2 ⟨hmark', h.mem_alphabet (by decide)⟩⟩
  | octal h => exact h.mem_alphabet (by decide)
  | decimal _ h => exact h.mem_alphabet (by decide)

theorem Literal.isAscii (h : Literal cs n) : ∀ c ∈ cs, c.toNat < 128 := by
  have hascii : alphabet.all (·.toNat < 128) = true := by decide
  exact fun c hc => of_decide_eq_true (List.all_eq_true.1 hascii c (h.mem_alphabet c hc))

theorem Literal.ne_nil (h : Literal cs n) : cs ≠ [] := by
  cases h with
  | hexadecimal => simp
  | octal => simp
  | decimal _ h => exact h.ne_nil

end Offload.Numeral
