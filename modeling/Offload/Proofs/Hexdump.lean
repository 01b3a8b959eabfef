/-
**Dumps, line by line.**

A dump has one line of text for each line of bytes.  So a part of the bytes that begins where a line
of the dump does, and ends where one does or with the bytes, is dumped as those lines of the whole
dump, with the same offsets in front.

Main definitions:

* `Hexdump.rowTexts` — the lines of a dump, one by one;
* `Hexdump.excerpt` — consecutive lines of a text.

Main results:

* `Hexdump.lines_drop`, `Hexdump.lines_take` — whole lines of bytes can be left out at both ends;
* `Hexdump.splitOn_rows` — the text of a dump comes apart into its lines;
* `Hexdump.renderChars_excerpt` — **the dump of whole lines is an excerpt of the whole dump**.
-/

import Offload.Hexdump

set_option relaxedAutoImplicit false
set_option autoImplicit false

namespace Offload.Hexdump

variable {bytes line : List UInt8} {lines' : List (List UInt8)} {base offset start stop : Nat}

/-! ### Lines of bytes -/

theorem lines_drop (k : Nat) (bytes : List UInt8) :
    lines (bytes.drop (16 * k)) = (lines bytes).drop k := by
  induction k generalizing bytes with
  | zero => rfl
  | succ k ih =>
      cases bytes with
      | nil => simp
      | cons b rest =>
          have hlen : 16 * (k + 1) = 15 + 16 * k + 1 := by omega
          rw [hlen, List.drop_succ_cons, ← List.drop_drop, ih, lines_cons, List.drop_succ_cons]

theorem lines_take (k : Nat) (bytes : List UInt8) :
    lines (bytes.take (16 * k)) = (lines bytes).take k := by
  induction k generalizing bytes with
  | zero => simp
  | succ k ih =>
      cases bytes with
      | nil => simp
      | cons b rest =>
          have hlen : 16 * (k + 1) = 16 * k + 15 + 1 := by omega
          rw [hlen, List.take_succ_cons, lines_cons, lines_cons, List.take_succ_cons,
            List.take_take, List.drop_take, Nat.add_sub_cancel, ih, Nat.min_eq_left (by omega)]

/-! ### Lines of text -/

/-- The lines of a dump, without the line breaks. -/
def rowTexts : Nat → List (List UInt8) → List (List Char)
  | _, [] => []
  | offset, line :: rest => row offset line :: rowTexts (offset + width) rest

/-- The lines of a text from one number up to another, each with the line break after it. -/
def excerpt (text : List Char) (first last : Nat) : List Char :=
  (((text.splitOn '\n').take last).drop first).flatMap (· ++ ['\n'])

theorem rows_eq_flatMap (offset : Nat) (ls : List (List UInt8)) :
    rows offset ls = (rowTexts offset ls).flatMap (· ++ ['\n']) := by
  induction ls generalizing offset with
  | nil => rfl
  | cons line rest ih => rw [rows, rowTexts, List.flatMap_cons, ih]

theorem length_rowTexts (offset : Nat) (ls : List (List UInt8)) :
    (rowTexts offset ls).length = ls.length := by
  induction ls generalizing offset with
  | nil => rfl
  | cons line rest ih => rw [rowTexts, List.length_cons, ih, List.length_cons]

theorem rowTexts_drop (k offset : Nat) (ls : List (List UInt8)) :
    (rowTexts offset ls).drop k = rowTexts (offset + 16 * k) (ls.drop k) := by
  induction k generalizing offset ls with
  | zero => rfl
  | succ k ih =>
      cases ls with
      | nil => rfl
      | cons line rest =>
          have hoffset : offset + 16 * (k + 1) = offset + width + 16 * k := by rw [width]; omega
          rw [rowTexts, List.drop_succ_cons, List.drop_succ_cons, ih, hoffset]

theorem rowTexts_take (k offset : Nat) (ls : List (List UInt8)) :
    (rowTexts offset ls).take k = rowTexts offset (ls.take k) := by
  induction k generalizing offset ls with
  | zero => rfl
  | succ k ih =>
      cases ls with
      | nil => rfl
      | cons line rest => rw [rowTexts, List.take_succ_cons, List.take_succ_cons, rowTexts, ih]

/-! ### Line breaks -/

theorem glyph_ne_break (b : UInt8) : glyph b ≠ '\n' := by
  have hascii : ∀ k : Fin 256, 32 ≤ k.val → Char.ofNat k ≠ '\n' := by decide +kernel
  rw [glyph]
  split
  · next hb => exact hascii ⟨b.toNat, b.toNat_lt⟩ (UInt8.le_iff_toNat_le.1 hb.1)
  · decide

theorem break_not_mem_paddedHexChars (width n : Nat) : '\n' ∉ Text.paddedHexChars width n := by
  have hdigit : ∀ d : Fin 16, '\n' ≠ Nat.digitChar d := by decide
  intro h
  rcases List.mem_append.1 h with h | h
  · cases List.eq_of_mem_replicate h
  · obtain ⟨d, hd⟩ := Text.exists_digit_of_mem_hexChars h
    exact hdigit d hd

/-- There is no line break within a line. -/
theorem break_not_mem_row (offset : Nat) (line : List UInt8) : '\n' ∉ row offset line := by
  have hglyph : ∀ b ∈ line, glyph b ≠ '\n' := fun b _ => glyph_ne_break b
  have hcell : ∀ b ∈ line, '\n' ∉ cell b := fun b _ =>
    List.not_mem_cons_of_ne_of_not_mem (by decide) (break_not_mem_paddedHexChars 2 b.toNat)
  simp only [row, List.mem_append, List.mem_flatMap, List.mem_map, not_or, not_exists, not_and]
  refine ⟨⟨⟨⟨⟨break_not_mem_paddedHexChars 8 offset, by decide⟩, hcell⟩, ?_⟩, by decide⟩, hglyph⟩
  intro h
  cases List.eq_of_mem_replicate h

/-- Lines come apart again at the breaks that were put after them. -/
theorem splitOn_breaks {texts : List (List Char)} (h : ∀ text ∈ texts, '\n' ∉ text) :
    (texts.flatMap (· ++ ['\n'])).splitOn '\n' = texts ++ [[]] := by
  induction texts with
  | nil => rfl
  | cons text texts ih =>
      rw [List.flatMap_cons, List.append_assoc, List.singleton_append,
        List.splitOn_append_cons_self_of_not_mem (h text List.mem_cons_self),
        ih fun t ht => h t (List.mem_cons_of_mem _ ht), List.cons_append]

theorem break_not_mem_rowTexts (offset : Nat) (ls : List (List UInt8)) :
    ∀ text ∈ rowTexts offset ls, '\n' ∉ text := by
  induction ls generalizing offset with
  | nil => exact List.forall_mem_nil _
  | cons line rest ih => exact List.forall_mem_cons.2 ⟨break_not_mem_row offset line, ih _⟩

/-- **The text of a dump comes apart into its lines**; there is nothing behind the last line
break. -/
theorem splitOn_rows (offset : Nat) (ls : List (List UInt8)) :
    (rows offset ls).splitOn '\n' = rowTexts offset ls ++ [[]] := by
  rw [rows_eq_flatMap, splitOn_breaks (break_not_mem_rowTexts offset ls)]

/-! ### Excerpts -/

/-- Lines of a dump, by their numbers, are the dump of the lines of bytes that have those numbers. -/
theorem excerpt_renderChars (base : Nat) {first last : Nat} (h : last ≤ (lines bytes).length) :
    excerpt (renderChars bytes base) first last =
      rows (base + 16 * first) (((lines bytes).take last).drop first) := by
  have hlen : last ≤ (rowTexts base (lines bytes)).length := by rwa [length_rowTexts]
  rw [excerpt, renderChars, splitOn_rows, List.take_append_of_le_length hlen, rowTexts_take,
    rowTexts_drop, ← rows_eq_flatMap]

/-- **The dump of whole lines is an excerpt of the whole dump.**  The part that is dumped begins with
a line, and ends with a line or with all the bytes. -/
theorem renderChars_excerpt (base : Nat) (hstart : 16 ∣ start)
    (hstop : 16 ∣ stop ∨ stop = bytes.length) (hle : stop ≤ bytes.length) :
    renderChars ((bytes.take stop).drop start) (base + start) =
      excerpt (renderChars bytes base) (start / 16) ((stop + 15) / 16) := by
  obtain ⟨k, rfl⟩ := hstart
  have hlines : (lines bytes).take ((stop + 15) / 16) = lines (bytes.take stop) := by
    rcases hstop with ⟨n, rfl⟩ | rfl
    · rw [lines_take]
      congr 1
      omega
    · rw [List.take_length, ← length_lines, List.take_length]
  rw [excerpt_renderChars base (by rw [length_lines]; omega), hlines,
    Nat.mul_div_cancel_left k (by decide), renderChars, lines_drop]

end Offload.Hexdump
