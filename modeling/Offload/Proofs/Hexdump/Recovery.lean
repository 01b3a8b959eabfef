/-
**Nothing is lost in a dump.**

The layout of a dump is stated here by itself, without the functions that write one: one line for
every sixteen bytes begun; on each of them the offset, sixteen cells of three characters for the
bytes and the blanks behind them, a separator, and one character for each byte.  A text of that
layout can be read back without knowing what was dumped.  The bytes are found by counting cells, so
a bar or a blank in the text column does no harm.

Main definitions:

* `Hexdump.ShowsLine`, `Hexdump.ShowsDump` — the layout of a line and of a whole dump;
* `Hexdump.recover` — reads a dump back.

Main results:

* `Hexdump.readLine_of_showsLine`, `Hexdump.recover_of_showsDump` — whatever has the layout is read
  back;
* `Hexdump.showsLine_row`, `Hexdump.showsDump_rowTexts` — what is written has it;
* `Hexdump.render_lossless` — **a dump shows its bytes and its offset, and no two dumps are the
  same**.
-/

import Offload.Proofs.Hexdump
import Offload.Proofs.Numeral.Hexadecimal
import Mathlib.Data.List.Forall2

set_option relaxedAutoImplicit false
set_option autoImplicit false

namespace Offload.Hexdump

open Offload.Numeral

variable {bytes line : List UInt8} {base offset : Nat} {text : List Char}
  {texts : List (List Char)}

/-! ### The layout -/

/-- A cell shows a byte, as a blank and its two digits, or the want of one, as three blanks. -/
def ShowsCell : Option UInt8 → List Char → Prop
  | some b, text => ∃ digits, text = ' ' :: digits ∧ digits.length = 2 ∧
      WritesPadded 2 digits b.toNat
  | none, text => text = [' ', ' ', ' ']

/-- A character of the text column shows a byte: as itself if it is printable ASCII, else as a
dot. -/
def ShowsGlyph (b : UInt8) (c : Char) : Prop :=
  if 0x20 ≤ b.toNat ∧ b.toNat ≤ 0x7e then c.toNat = b.toNat else c = '.'

/-- The parts that a line of a dump consists of. -/
structure Layout (offset : Nat) (line : List UInt8) (digits : List Char)
    (cells : List (List Char)) (column : List Char) : Prop where
  digits : WritesPadded 8 digits offset
  sixteen : cells.length = 16
  cells : List.Forall₂ ShowsCell
    (line.map some ++ List.replicate (16 - line.length) none) cells
  column : List.Forall₂ ShowsGlyph line column

/-- The text is a line of a dump that shows these bytes at this offset. -/
def ShowsLine (offset : Nat) (line : List UInt8) (text : List Char) : Prop :=
  ∃ digits cells column, text = digits ++ ':' :: (cells.flatten ++ " | ".toList ++ column) ∧
    Layout offset line digits cells column

/-- The texts are the lines of a dump of these bytes, the first of which has the given offset. -/
structure ShowsDump (bytes : List UInt8) (base : Nat) (texts : List (List Char)) : Prop where
  length : texts.length = (bytes.length + 15) / 16
  unbroken : ∀ text ∈ texts, '\n' ∉ text
  line : ∀ (i : Nat) (text : List Char), texts[i]? = some text →
    ShowsLine (base + 16 * i) ((bytes.drop (16 * i)).take 16) text

/-! ### Reading a line -/

/-- The number that hexadecimal digits write. -/
def valueOf (digits : List Char) : Nat := Nat.ofDigits 16 (digits.reverse.map figure)

/-- The byte in a cell, if there is one. -/
def readCell (cell : List Char) : Option UInt8 :=
  if cell = [' ', ' ', ' '] then none else some (UInt8.ofNat (valueOf (cell.drop 1)))

/-- What is in a number of cells, three characters each. -/
def readCells : Nat → List Char → List (Option UInt8)
  | 0, _ => []
  | k + 1, text => readCell (text.take 3) :: readCells k (text.drop 3)

/-- The offset and the bytes of a line. -/
def readLine (text : List Char) : Nat × List UInt8 :=
  (valueOf (text.takeWhile (· ≠ ':')),
    (readCells 16 ((text.dropWhile (· ≠ ':')).drop 1)).filterMap id)

/-- A cell is three characters wide, and what it shows is read back. -/
theorem readCell_of_shows {o : Option UInt8} {cell : List Char} (h : ShowsCell o cell) :
    cell.length = 3 ∧ readCell cell = o := by
  cases o with
  | none => exact ⟨by rw [h]; rfl, if_pos h⟩
  | some b =>
      obtain ⟨digits, rfl, hlen, hdigits⟩ := h
      have hblank : ' ' :: digits ≠ [' ', ' ', ' '] := by
        intro heq
        rw [(List.cons.inj heq).2] at hdigits
        exact hdigits.not_mem (by decide) List.mem_cons_self
      refine ⟨by rw [List.length_cons, hlen], ?_⟩
      rw [readCell, if_neg hblank, List.drop_succ_cons, List.drop_zero, valueOf,
        hdigits.writes.value, UInt8.ofNat_toNat]

theorem readCells_of_shows {os : List (Option UInt8)} {cells : List (List Char)}
    (rest : List Char) (h : List.Forall₂ ShowsCell os cells) :
    readCells cells.length (cells.flatten ++ rest) = os := by
  induction h with
  | nil => rfl
  | cons hcell _ ih =>
      obtain ⟨hlen, hread⟩ := readCell_of_shows hcell
      rw [List.length_cons, List.flatten_cons, List.append_assoc, readCells,
        List.take_left' hlen, List.drop_left' hlen, hread, ih]

/-- **A line is read back**, whatever stands in the text column. -/
theorem readLine_of_showsLine (h : ShowsLine offset line text) :
    readLine text = (offset, line) := by
  obtain ⟨digits, cells, column, rfl, hlayout⟩ := h
  have hcolon : ∀ c ∈ digits, (decide (c ≠ ':')) = true := by
    intro c hc
    exact decide_eq_true fun heq => hlayout.digits.not_mem (by decide) (heq ▸ hc)
  have hread := readCells_of_shows (" | ".toList ++ column) hlayout.cells
  rw [hlayout.sixteen] at hread
  rw [readLine, List.takeWhile_append_of_pos hcolon, List.dropWhile_append_of_pos hcolon,
    List.takeWhile_cons_of_neg (by decide), List.dropWhile_cons_of_neg (by decide),
    List.drop_succ_cons, List.drop_zero, List.append_nil, List.append_assoc, hread, valueOf,
    hlayout.digits.writes.value]
  simp

/-! ### Reading a dump -/

/-- The bytes that a dump shows, and the offset of the first one if there is one. -/
def recover (dump : String) : List UInt8 × Option Nat :=
  let shown := (dump.toList.splitOn '\n').dropLast.map readLine
  (shown.flatMap (·.2), shown.head?.map (·.1))

/-- The lines of a list, by their numbers. -/
theorem getElem?_lines {i : Nat} (h : i < (bytes.length + 15) / 16) :
    (lines bytes)[i]? = some ((bytes.drop (16 * i)).take 16) := by
  have hlen : (bytes.drop (16 * i)).length = bytes.length - 16 * i := List.length_drop
  obtain ⟨b, rest, hrest⟩ : ∃ b rest, bytes.drop (16 * i) = b :: rest :=
    List.exists_cons_of_length_pos (by omega)
  rw [← List.head?_drop, ← lines_drop, hrest, lines_cons]
  rfl

/-- **A dump is read back.** -/
theorem recover_of_showsDump (h : ShowsDump bytes base texts) :
    recover (String.ofList (texts.flatMap (· ++ ['\n']))) =
      (bytes, if bytes = [] then none else some base) := by
  have hline {i : Nat} {text : List Char} (hi : texts[i]? = some text) :
      readLine text = (base + 16 * i, (bytes.drop (16 * i)).take 16) :=
    readLine_of_showsLine (h.line i text hi)
  have hbytes : (texts.map readLine).map (·.2) = lines bytes := by
    refine List.ext_getElem? fun i => ?_
    rw [List.getElem?_map, List.getElem?_map]
    rcases Nat.lt_or_ge i texts.length with hi | hi
    · rw [List.getElem?_eq_getElem hi, getElem?_lines (h.length ▸ hi)]
      simp only [Option.map_some, hline (List.getElem?_eq_getElem hi)]
    · have hover : (lines bytes).length ≤ i := by rwa [length_lines, ← h.length]
      rw [List.getElem?_eq_none hi, List.getElem?_eq_none hover]
      rfl
  have hbase : (texts.map readLine).head?.map (·.1) = if bytes = [] then none else some base := by
    rw [List.head?_eq_getElem?, List.getElem?_map]
    split
    · next hempty =>
        have hnone : texts.length ≤ 0 := by simp [h.length, hempty]
        rw [List.getElem?_eq_none hnone]
        rfl
    · next hne =>
        have hfirst : 0 < texts.length := by
          have hpos := List.length_pos_of_ne_nil hne
          have hlen := h.length
          omega
        rw [List.getElem?_eq_getElem hfirst, Option.map_some,
          hline (List.getElem?_eq_getElem hfirst)]
        rfl
  rw [recover, String.toList_ofList, splitOn_breaks h.unbroken, List.dropLast_concat]
  simp only [hbase, List.flatMap_def, hbytes, lines_flatten]

/-! ### What is written -/

/-- The digits of a byte are two. -/
theorem length_cell_digits (b : UInt8) : (Text.paddedHexChars 2 b.toNat).length = 2 := by
  have hshort : (Text.hexChars b.toNat).length ≤ 2 :=
    (Nat.length_toDigits_le_iff (by decide) (by decide)).2 b.toNat_lt
  rw [Text.length_paddedHexChars, max_eq_left hshort]

theorem showsCell_cell (b : UInt8) : ShowsCell (some b) (cell b) :=
  ⟨_, rfl, length_cell_digits b, writesPadded_paddedHexChars (by decide) b.toNat⟩

theorem showsGlyph_glyph (b : UInt8) : ShowsGlyph b (glyph b) := by
  have hascii : ∀ k : Fin 256, k.val ≤ 126 → (Char.ofNat k).toNat = k := by decide +kernel
  have hprintable : (32 ≤ b ∧ b ≤ 126) ↔ (0x20 ≤ b.toNat ∧ b.toNat ≤ 0x7e) :=
    and_congr UInt8.le_iff_toNat_le UInt8.le_iff_toNat_le
  rw [ShowsGlyph, glyph, if_congr hprintable rfl rfl]
  split
  · next hb => exact hascii ⟨b.toNat, b.toNat_lt⟩ hb.2
  · rfl

/-- The cells of a line: those of its bytes, and blank ones up to sixteen. -/
def rowCells (line : List UInt8) : List (List Char) :=
  line.map cell ++ List.replicate (16 - line.length) [' ', ' ', ' ']

theorem layout_row (offset : Nat) (hline : line.length ≤ 16) :
    Layout offset line (Text.paddedHexChars 8 offset) (rowCells line) (line.map glyph) where
  digits := writesPadded_paddedHexChars (by decide) offset
  sixteen := by
    rw [rowCells, List.length_append, List.length_map, List.length_replicate]
    omega
  cells := by
    refine List.rel_append ?_ ?_
    · rw [List.forall₂_map_left_iff, List.forall₂_map_right_iff, List.forall₂_same]
      exact fun b _ => showsCell_cell b
    · refine List.forall₂_iff_get.2 ⟨by simp, fun i _ _ => ?_⟩
      simp [ShowsCell]
  column := by
    rw [List.forall₂_map_right_iff, List.forall₂_same]
    exact fun b _ => showsGlyph_glyph b

/-- **A line that is written shows its bytes and its offset.** -/
theorem showsLine_row (offset : Nat) (hline : line.length ≤ 16) :
    ShowsLine offset line (row offset line) := by
  have hblank : (List.replicate (16 - line.length) [' ', ' ', ' ']).flatten =
      List.replicate (3 * (width - line.length)) ' ' := by
    rw [Nat.mul_comm]
    exact List.flatten_replicate_replicate (m := 3)
  refine ⟨_, _, _, ?_, layout_row offset hline⟩
  rw [row, rowCells, List.flatten_append, hblank, List.flatMap_def]
  simp

theorem getElem?_rowTexts (offset : Nat) (ls : List (List UInt8)) (i : Nat) :
    (rowTexts offset ls)[i]? = ls[i]?.map (row (offset + 16 * i)) := by
  rw [← List.head?_drop, rowTexts_drop, ← List.head?_drop]
  cases ls.drop i <;> rfl

/-- **The lines that are written are a dump.** -/
theorem showsDump_rowTexts (bytes : List UInt8) (base : Nat) :
    ShowsDump bytes base (rowTexts base (lines bytes)) where
  length := by rw [length_rowTexts, length_lines]
  unbroken := break_not_mem_rowTexts base (lines bytes)
  line := by
    intro i text hi
    have hlt : i < (bytes.length + 15) / 16 := by
      rw [← length_lines, ← length_rowTexts base]
      exact (List.getElem?_eq_some_iff.1 hi).1
    rw [getElem?_rowTexts, getElem?_lines hlt, Option.map_some, Option.some_inj] at hi
    rw [← hi]
    exact showsLine_row _ (List.length_take_le _ _)

theorem render_eq (bytes : List UInt8) (base : Nat) :
    render bytes base = String.ofList ((rowTexts base (lines bytes)).flatMap (· ++ ['\n'])) := by
  rw [render, renderChars, rows_eq_flatMap]

/-- What was dumped is read back. -/
theorem recover_render (bytes : List UInt8) (base : Nat) :
    recover (render bytes base) = (bytes, if bytes = [] then none else some base) := by
  rw [render_eq, recover_of_showsDump (showsDump_rowTexts bytes base)]

/-- **Nothing is lost in a dump.**  It has the layout, it is read back, and only an empty dump can
come from more than one offset. -/
theorem render_lossless (bytes : List UInt8) (base : Nat) :
    (∃ texts, (render bytes base).toList = texts.flatMap (· ++ ['\n']) ∧
      ShowsDump bytes base texts) ∧
    recover (render bytes base) = (bytes, if bytes = [] then none else some base) ∧
    ∀ bytes' base', bytes ≠ [] → render bytes' base' = render bytes base →
      bytes' = bytes ∧ base' = base := by
  refine ⟨⟨_, ?_, showsDump_rowTexts bytes base⟩, recover_render bytes base, ?_⟩
  · rw [render_eq, String.toList_ofList]
  · intro bytes' base' hne heq
    have hread := recover_render bytes base
    rw [← heq, recover_render, Prod.mk.injEq, if_neg hne] at hread
    obtain ⟨rfl, hbase⟩ := hread
    rw [if_neg hne] at hbase
    exact ⟨rfl, Option.some_inj.1 hbase⟩

/-- A bar among the bytes is not taken for the separator, nor a blank for the want of a byte. -/
example : recover (render [0x7c, 0x20, 0x0a] 0xffffffff0) =
    ([0x7c, 0x20, 0x0a], some 0xffffffff0) := by
  decide +kernel

end Offload.Hexdump
