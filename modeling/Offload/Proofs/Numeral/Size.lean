/-
**Sizes as they are written, and what they come to.**

A size is a number and a unit, with blanks before, between and after them.  Every size that is
written so is read as the product of the two, if that fits in 64 bits, and is refused otherwise; the
product never wraps.  A unit is told from the digits in front of it, since no digit of any radix is
a `K`, an `M` or a `G`, whichever ends the text.

Main definitions:

* `Numeral.unitShifts` — the units, and the powers of two that they stand for.

Main results:

* `Numeral.splitUnit_append`, `Numeral.splitUnit_literal` — the unit is found if there is one, and
  only then;
* `Numeral.size_of_literal` — **a size is read as the number times the unit, or refused**.
-/

import Offload.Proofs.Numeral.Literal

set_option relaxedAutoImplicit false
set_option autoImplicit false

namespace Offload.Numeral

variable {n m k : Nat} {unit : String} {cs rest body text before between after : List Char}

/-! ### Blanks around a literal -/

theorem not_blank_of_mem_alphabet {c : Char} (hc : c ∈ alphabet) : Text.isBlank c = false := by
  have hall : alphabet.all (!Text.isBlank ·) = true := by decide
  simpa using List.all_eq_true.1 hall c hc

/-- A text that begins with a literal and does not end with a blank is kept without the blanks
around it. -/
theorem Literal.trimChars_append (h : Literal cs n)
    (hlast : ∀ c ∈ (cs ++ rest).getLast?, Text.isBlank c = false)
    (hbefore : ∀ c ∈ before, Text.isBlank c = true)
    (hafter : ∀ c ∈ after, Text.isBlank c = true) :
    Text.trimChars (before ++ (cs ++ rest) ++ after) = cs ++ rest := by
  rw [Text.trimChars_append_right hafter, Text.trimChars_append_left hbefore]
  refine Text.trimChars_eq_self ?_ hlast
  obtain ⟨c, cs, rfl⟩ := List.exists_cons_of_ne_nil h.ne_nil
  intro c' hc'
  obtain rfl : c = c' := by simpa using hc'
  exact not_blank_of_mem_alphabet (h.mem_alphabet c (by simp))

theorem Literal.trimChars (h : Literal cs n) (hbefore : ∀ c ∈ before, Text.isBlank c = true)
    (hafter : ∀ c ∈ after, Text.isBlank c = true) :
    Text.trimChars (before ++ cs ++ after) = cs := by
  have hlast : ∀ c ∈ (cs ++ []).getLast?, Text.isBlank c = false := by
    intro c hc
    rw [List.append_nil] at hc
    exact not_blank_of_mem_alphabet (h.mem_alphabet c (List.mem_of_mem_getLast? hc))
  have htrim := h.trimChars_append hlast hbefore hafter
  rwa [List.append_nil] at htrim

/-- There are no blanks around a literal. -/
theorem Literal.trimChars_self (h : Literal cs n) : Text.trimChars cs = cs := by
  have htrim : Text.trimChars ([] ++ cs ++ []) = cs := h.trimChars (by simp) (by simp)
  rwa [List.nil_append, List.append_nil] at htrim

/-- A literal is read as its number, if that fits. -/
theorem Literal.numberOfChars_iff (h : Literal (Text.trimChars text) n) :
    numberOfChars text = .ok m ↔ n = m ∧ n < UInt64.size := by
  rw [numberOfChars_eq_ok_iff]
  constructor
  · rintro ⟨haccepted, hm⟩
    obtain rfl := (Accepted.literal h).unique haccepted
    exact ⟨rfl, hm⟩
  · rintro ⟨rfl, hn⟩
    exact ⟨.literal h, hn⟩

/-! ### Units -/

/-- The units of a size, and the powers of two that they stand for. -/
def unitShifts : List (String × Nat) :=
  [("", 0), ("K", 10), ("KiB", 10), ("M", 20), ("MiB", 20), ("G", 30), ("GiB", 30)]

theorem stripEnd?_eq (last cs : List Char) :
    stripEnd? last cs =
      if last.reverse <+: cs.reverse then some (cs.take (cs.length - last.length)) else none := by
  have hiff : (cs.drop (cs.length - last.length) = last ∧ last.length ≤ cs.length) ↔
      last.reverse <+: cs.reverse := by
    rw [List.reverse_prefix]
    constructor
    · rintro ⟨hdrop, -⟩
      exact hdrop ▸ List.drop_suffix _ _
    · intro h
      exact ⟨(List.suffix_iff_eq_drop.1 h).symm, h.length_le⟩
  simp only [stripEnd?, hiff]

/-- A unit at the end is found, and what stands before it. -/
theorem splitUnit_append (hunit : (unit, k) ∈ unitShifts) (hne : unit ≠ "") (body : List Char) :
    splitUnit (body ++ unit.toList) = (body, 2 ^ k) := by
  simp only [unitShifts, List.mem_cons, Prod.mk.injEq, List.not_mem_nil, or_false] at hunit
  rcases hunit with ⟨rfl, -⟩ | ⟨rfl, rfl⟩ | ⟨rfl, rfl⟩ | ⟨rfl, rfl⟩ | ⟨rfl, rfl⟩ | ⟨rfl, rfl⟩ |
    ⟨rfl, rfl⟩
  · exact absurd rfl hne
  all_goals simp [splitUnit, units, stripEnd?_eq, kibi]

/-- No unit is found at the end of a literal: the letters of the units are no digits. -/
theorem splitUnit_literal (h : Literal cs n) : splitUnit cs = (cs, 1) := by
  have hletter : units.all (fun u => u.1.any (!alphabet.contains ·)) = true := by decide
  have hnone : units.findSome? (fun u => (stripEnd? u.1 cs).map (·, u.2)) = none := by
    rw [List.findSome?_eq_none_iff]
    intro u hu
    obtain ⟨c, hc, hnot⟩ : ∃ c ∈ u.1, c ∉ alphabet := by
      simpa using List.all_eq_true.1 hletter u hu
    rw [stripEnd?_eq, if_neg, Option.map_none]
    intro hend
    exact hnot (h.mem_alphabet c ((List.reverse_prefix.1 hend).subset hc))
  rw [splitUnit, hnone]

/-- A size is read as the product of its number and its unit, if that fits. -/
theorem sizeOfChars_iff {bytes : Nat} (hpos : 0 < bytes)
    (hsplit : splitUnit (Text.trimChars text) = (body, bytes))
    (h : Literal (Text.trimChars body) n) :
    sizeOfChars text = .ok m ↔ n * bytes = m ∧ n * bytes < UInt64.size := by
  have hread (n') := h.numberOfChars_iff (m := n')
  -- A number that does not fit has no product that fits.
  have hgrows : n ≤ n * bytes := Nat.le_mul_of_pos_right n hpos
  rw [sizeOfChars]
  simp only [hsplit]
  cases hnumber : numberOfChars body with
  | error e =>
      simp only [reduceCtorEq, false_iff, not_and]
      intro _ hfits
      have hn := (hread n).2 ⟨rfl, by omega⟩
      cases hnumber.symm.trans hn
  | ok n' =>
      obtain ⟨rfl, -⟩ := (hread n').1 hnumber
      by_cases hfits : n * bytes < UInt64.size
      · simp [hfits]
      · simp [hfits]

/-- The texts with a unit lose nothing but the blanks around them: no unit ends in a blank. -/
theorem Literal.trimChars_unit (h : Literal cs n) (hunit : (unit, k) ∈ unitShifts)
    (hne : unit ≠ "") (hbefore : ∀ c ∈ before, Text.isBlank c = true)
    (hafter : ∀ c ∈ after, Text.isBlank c = true) :
    Text.trimChars (before ++ cs ++ between ++ unit.toList ++ after) =
      cs ++ between ++ unit.toList := by
  have hends : unitShifts.all (fun u => u.1.toList.all (!Text.isBlank ·)) = true := by decide
  have hlast : ∀ c ∈ (cs ++ (between ++ unit.toList)).getLast?, Text.isBlank c = false := by
    intro c hc
    have hne' : unit.toList ≠ [] := by simpa using hne
    rw [← List.append_assoc, List.getLast?_append, List.getLast?_eq_some_getLast hne',
      Option.some_or, Option.mem_some_iff] at hc
    have hall := List.all_eq_true.1 hends _ hunit
    simpa using List.all_eq_true.1 hall c (hc ▸ List.getLast_mem hne')
  have htrim := h.trimChars_append hlast hbefore hafter
  simpa only [List.append_assoc] using htrim

/-- A size without a unit; the blanks around it are all that there are. -/
theorem Literal.sizeOfChars_plain (h : Literal cs n)
    (hbefore : ∀ c ∈ before, Text.isBlank c = true)
    (hafter : ∀ c ∈ after, Text.isBlank c = true) :
    sizeOfChars (before ++ cs ++ after) = .ok m ↔ n * 2 ^ 0 = m ∧ n * 2 ^ 0 < UInt64.size := by
  refine sizeOfChars_iff (Nat.two_pow_pos 0) ?_ (h.trimChars_self.symm ▸ h)
  rw [h.trimChars hbefore hafter]
  exact splitUnit_literal h

/-- A size with a unit. -/
theorem Literal.sizeOfChars_unit (h : Literal cs n) (hunit : (unit, k) ∈ unitShifts)
    (hne : unit ≠ "") (hbefore : ∀ c ∈ before, Text.isBlank c = true)
    (hbetween : ∀ c ∈ between, Text.isBlank c = true)
    (hafter : ∀ c ∈ after, Text.isBlank c = true) :
    sizeOfChars (before ++ cs ++ between ++ unit.toList ++ after) = .ok m ↔
      n * 2 ^ k = m ∧ n * 2 ^ k < UInt64.size := by
  have hbody : Text.trimChars ([] ++ cs ++ between) = cs := h.trimChars (by simp) hbetween
  rw [List.nil_append] at hbody
  refine sizeOfChars_iff (Nat.two_pow_pos k) ?_ (hbody.symm ▸ h)
  rw [h.trimChars_unit hunit hne hbefore hafter]
  exact splitUnit_append hunit hne (cs ++ between)

/-! ### Sizes -/

/-- What is read as one value at most, and exactly under a condition. -/
theorem toOption_of_ok_iff {ε α : Type} {r : Except ε α} {a : α} {p : Prop} [Decidable p]
    (h : ∀ b, r = .ok b ↔ a = b ∧ p) : r.toOption = if p then some a else none := by
  by_cases hp : p
  · rw [(h a).2 ⟨rfl, hp⟩, if_pos hp]
    rfl
  · rw [if_neg hp]
    cases r with
    | error e => rfl
    | ok b => exact absurd ((h b).1 rfl).2 hp

/-- **A size is read as its number times its unit, if the product fits in 64 bits, and is refused
otherwise**; and so is a number without a unit.  Blanks do not matter. -/
theorem size_of_literal (h : Literal cs n) (hunit : (unit, k) ∈ unitShifts)
    (hbefore : ∀ c ∈ before, Text.isBlank c = true)
    (hbetween : ∀ c ∈ between, Text.isBlank c = true)
    (hafter : ∀ c ∈ after, Text.isBlank c = true) :
    (size (String.ofList (before ++ cs ++ between ++ unit.toList ++ after))).toOption =
        (if n * 2 ^ k < 2 ^ 64 then some (n * 2 ^ k) else none) ∧
      (number (String.ofList (before ++ cs ++ after))).toOption =
        if n < 2 ^ 64 then some n else none := by
  have hmax : UInt64.size = 2 ^ 64 := rfl
  constructor
  · refine toOption_of_ok_iff fun m => ?_
    rw [size, String.toList_ofList, ← hmax]
    by_cases hne : unit = ""
    · -- Without a unit all the blanks behind the number stand at the end.
      subst hne
      obtain rfl : k = 0 := by simpa [unitShifts] using hunit
      rw [String.toList_empty, List.append_nil, List.append_assoc _ between]
      exact h.sizeOfChars_plain hbefore (List.forall_mem_append.2 ⟨hbetween, hafter⟩)
    · exact h.sizeOfChars_unit hunit hne hbefore hbetween hafter
  · refine toOption_of_ok_iff fun m => ?_
    have htrim : Text.trimChars (before ++ cs ++ after) = cs := h.trimChars hbefore hafter
    rw [number, String.toList_ofList, ← hmax]
    exact Literal.numberOfChars_iff (htrim.symm ▸ h)

/-- The greatest size in kibibytes, in digits of both cases, with leading zeros and blanks of
several kinds. -/
theorem size_of_literal_greatest :
    Literal "0X003fFfFfFfFfFfFf".toList (2 ^ 54 - 1) ∧
      (size "\t0X003fFfFfFfFfFfFf\u2003KiB \n").toOption = some (2 ^ 64 - 1024) ∧
      (number "\t0X003fFfFfFfFfFfFf \n").toOption = some (2 ^ 54 - 1) := by
  have h : Literal "0X003fFfFfFfFfFfFf".toList (2 ^ 54 - 1) :=
    .hexadecimal (Or.inr rfl) (by decide +kernel)
  have hunit : ("KiB", 10) ∈ unitShifts := by decide
  have hbefore : ∀ c ∈ ['\t'], Text.isBlank c = true := List.all_eq_true.1 (by decide)
  have hbetween : ∀ c ∈ ['\u2003'], Text.isBlank c = true := List.all_eq_true.1 (by decide)
  have hafter : ∀ c ∈ [' ', '\n'], Text.isBlank c = true := List.all_eq_true.1 (by decide)
  obtain ⟨hsize, hnumber⟩ := size_of_literal h hunit hbefore hbetween hafter
  rw [if_pos (by decide)] at hsize hnumber
  exact ⟨h, hsize, hnumber⟩

/-- One more kibibyte is too much. -/
example : size "18014398509481984KiB" = .error (.sizeTooLarge "18014398509481984KiB") := by
  decide +kernel

end Offload.Numeral
