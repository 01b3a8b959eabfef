/-
**Hexadecimal numerals write the numbers that they are made from.**

Numbers are written in lower-case hexadecimal, most of them with zeros in front up to a width.  Such
a numeral can be read back: the positional value of its digits is the number, and the zeros in front
change nothing.

Main definitions:

* `Numeral.WritesPadded` — digits write a number in lower-case hexadecimal, padded up to a width.

Main results:

* `Numeral.writes_hexChars` — the digits of a number write it;
* `Numeral.writesPadded_paddedHexChars` — **so do the padded ones**, and nothing is padded that is
  wide enough;
* `Numeral.WritesPadded.unique` — no other numeral writes the same number with the same padding.
-/

import Offload.Proofs.Numeral.Literal
import Offload.Text.Hex
import Mathlib.Data.Nat.Digits.Lemmas

set_option relaxedAutoImplicit false
set_option autoImplicit false

namespace Offload.Numeral

variable {radix width n : Nat} {c : Char} {ds ds' : List Char}

/-- The characters write a number in lower-case hexadecimal, with zeros in front up to a width and
no further. -/
structure WritesPadded (width : Nat) (ds : List Char) (n : Nat) : Prop where
  writes : Writes 16 ds n
  lower : ∀ c ∈ ds, c ∈ "0123456789abcdef".toList
  width_le : width ≤ ds.length
  tight : width < ds.length → ds.head? ≠ some '0'

/-- What is no lower-case digit does not occur. -/
theorem WritesPadded.not_mem (h : WritesPadded width ds n)
    (hc : c ∉ "0123456789abcdef".toList) : c ∉ ds :=
  fun hmem => hc (h.lower c hmem)

theorem figure_digitChar (d : Fin 16) : figure (Nat.digitChar d) = d := by
  revert d
  decide

/-- A digit more at the end. -/
theorem Writes.concat (h : Writes radix ds n) (hc : figure c < radix) :
    Writes radix (ds ++ [c]) (n * radix + figure c) where
  ne_nil := by simp
  figure_lt := by
    intro d hd
    rcases List.mem_append.1 hd with hd | hd
    · exact h.figure_lt d hd
    · exact List.mem_singleton.1 hd ▸ hc
  value := by
    rw [List.reverse_append, List.reverse_singleton, List.singleton_append, List.map_cons,
      Nat.ofDigits_cons, h.value]
    ring

/-- Zeros in front change nothing. -/
theorem Writes.replicate_append (h : Writes radix ds n) (hpos : 0 < radix) (k : Nat) :
    Writes radix (List.replicate k '0' ++ ds) n := by
  induction k with
  | zero => exact h
  | succ k ih =>
      rw [List.replicate_succ, List.cons_append]
      exact (writes_zero_cons hpos ih.ne_nil).2 ih

/-- The digits of a number write it. -/
theorem writes_hexChars (n : Nat) : Writes 16 (Text.hexChars n) n := by
  induction n using Nat.strongRecOn with
  | _ n ih =>
      rw [Text.hexChars, Nat.toDigits_eq_if (by decide)]
      split
      · next hn =>
          have hfigure : figure (Nat.digitChar n) = n := figure_digitChar ⟨n, hn⟩
          refine ⟨by simp, fun c hc => ?_, by simp [hfigure]⟩
          rw [List.mem_singleton.1 hc, hfigure]
          exact hn
      · have hfigure : figure (Nat.digitChar (n % 16)) = n % 16 :=
          figure_digitChar ⟨n % 16, Nat.mod_lt n (by decide)⟩
        have hdigit := (ih (n / 16) (by omega)).concat (c := Nat.digitChar (n % 16)) (by omega)
        have hn : n / 16 * 16 + figure (Nat.digitChar (n % 16)) = n := by omega
        rwa [hn] at hdigit

/-- A number other than zero is written without a zero in front. -/
theorem head?_hexChars (hn : n ≠ 0) : (Text.hexChars n).head? ≠ some '0' := by
  induction n using Nat.strongRecOn with
  | _ n ih =>
      rw [Text.hexChars, Nat.toDigits_eq_if (by decide)]
      split
      · next hlt =>
          have hdigit : ∀ d : Fin 16, d ≠ 0 → Nat.digitChar d ≠ '0' := by decide
          intro hzero
          exact hdigit ⟨n, hlt⟩ (Fin.ne_of_val_ne hn) (Option.some_inj.1 hzero)
      · have hrest := ih (n / 16) (by omega) (by omega)
        obtain ⟨c, ds, hds⟩ := List.exists_cons_of_ne_nil (writes_hexChars (n / 16)).ne_nil
        rw [Text.hexChars] at hrest hds
        rwa [hds, List.cons_append, List.head?_cons, ← List.head?_cons, ← hds]

/-- **A padded number is written in lower-case hexadecimal**, and zeros stand in front of it only up
to the width. -/
theorem writesPadded_paddedHexChars (hwidth : 0 < width) (n : Nat) :
    WritesPadded width (Text.paddedHexChars width n) n where
  writes := (writes_hexChars n).replicate_append (by decide) _
  lower := by
    have hdigit : ∀ d : Fin 16, Nat.digitChar d ∈ "0123456789abcdef".toList := by decide
    intro c hc
    rcases List.mem_append.1 hc with hc | hc
    · rw [List.eq_of_mem_replicate hc]
      decide
    · obtain ⟨d, rfl⟩ := Text.exists_digit_of_mem_hexChars hc
      exact hdigit d
  width_le := by
    rw [Text.length_paddedHexChars]
    exact Nat.le_max_left _ _
  tight := by
    intro hlong
    rw [Text.length_paddedHexChars, lt_max_iff, or_iff_right (Nat.lt_irrefl width)] at hlong
    have hn : n ≠ 0 := by
      rintro rfl
      have hshort : (Text.hexChars 0).length = 1 := rfl
      omega
    rw [Text.paddedHexChars, Nat.sub_eq_zero_of_le (Nat.le_of_lt hlong), List.replicate_zero,
      List.nil_append]
    exact head?_hexChars hn

/-! ### Numerals are unique -/

/-- A lower-case digit is known by its place. -/
theorem digitChar_figure (hc : c ∈ "0123456789abcdef".toList) : Nat.digitChar (figure c) = c := by
  have hall : "0123456789abcdef".toList.all (fun c => Nat.digitChar (figure c) = c) = true := by
    decide
  exact of_decide_eq_true (List.all_eq_true.1 hall c hc)

theorem Writes.figures_lt (h : Writes radix ds n) : ∀ d ∈ ds.reverse.map figure, d < radix := by
  intro d hd
  obtain ⟨c, hc, rfl⟩ := List.mem_map.1 hd
  exact h.figure_lt c (List.mem_reverse.1 hc)

/-- A numeral is as long as its number or its width asks for. -/
theorem WritesPadded.length_eq (h : WritesPadded width ds n) :
    ds.length = max width (Nat.digits 16 n).length := by
  have hlength : (ds.reverse.map figure).length = ds.length := by simp
  have hle : (Nat.digits 16 n).length ≤ ds.length := by
    rw [Nat.digits_length_le_iff (by decide), ← h.writes.value, ← hlength]
    exact Nat.ofDigits_lt_base_pow_length (by decide) h.writes.figures_lt
  by_cases htight : width < ds.length
  · -- there is no zero in front, so that the digits are those of the number
    obtain ⟨c, rest, rfl⟩ := List.exists_cons_of_ne_nil h.writes.ne_nil
    have hzero : figure c ≠ 0 := by
      intro hzero
      have hchar := digitChar_figure (h.lower c List.mem_cons_self)
      rw [hzero] at hchar
      exact h.tight htight (congrArg some hchar.symm)
    have hdigits : Nat.digits 16 n = (c :: rest).reverse.map figure := by
      rw [← h.writes.value]
      refine Nat.digits_ofDigits 16 (by decide) _ h.writes.figures_lt fun hne => ?_
      simpa using hzero
    rw [hdigits, hlength]
    exact (max_eq_right (Nat.le_of_lt htight)).symm
  · have hwidth := h.width_le
    omega

/-- **A number is written in one way only.** -/
theorem WritesPadded.unique (h : WritesPadded width ds n) (h' : WritesPadded width ds' n) :
    ds = ds' := by
  have hread {ds : List Char} (h : WritesPadded width ds n) :
      (ds.reverse.map figure).map Nat.digitChar = ds.reverse := by
    rw [List.map_map]
    exact (List.map_congr_left fun c hc =>
      digitChar_figure (h.lower c (List.mem_reverse.1 hc))).trans (List.map_id _)
  have hfigures : ds.reverse.map figure = ds'.reverse.map figure :=
    Nat.ofDigits_inj_of_len_eq (by decide) (by simp [h.length_eq, h'.length_eq])
      h.writes.figures_lt h'.writes.figures_lt (h.writes.value.trans h'.writes.value.symm)
  exact List.reverse_inj.1 ((hread h).symm.trans (hfigures ▸ hread h'))

end Offload.Numeral
