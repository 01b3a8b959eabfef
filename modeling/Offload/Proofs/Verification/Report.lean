/-
**What a comparison shows.**

A comparison that finds a difference logs two dumps of one window: what was expected, and what is
there.  The window consists of whole lines from the first difference on, at most sixteen of them, and
reaches to the last difference unless that is too far away.  A dirty guard is dumped as a whole.  The
offsets are those of the data, so that a dump of the window is a part of the dump of all the data.

Main definitions:

* `Verification.Window` — what the window of a dump has to be;
* `Verification.Shows` — a text is the dump of a window of the data.

Main results:

* `Verification.window_spec` — the window that is chosen;
* `Verification.shows_render` — a dump of the window shows the lines of the whole dump;
* `Verification.report_shows` — **the records show what differs and what is dirty, and nothing
  else**.
-/

import Offload.Proofs.Hexdump
import Offload.Proofs.Verification.Difference

set_option relaxedAutoImplicit false
set_option autoImplicit false

namespace Offload.Verification

variable {given found bytes : List UInt8} {first last size start stop : Nat}

/-! ### The window -/

/-- The window from `start` up to `stop` shows data that differs first at `first` and last at
`last`. -/
structure Window (first last size start stop : Nat) : Prop where
  /-- It begins where a line does. -/
  aligned : 16 ∣ start
  /-- It holds the first difference. -/
  start_le : start ≤ first
  lt_stop : first < stop
  /-- It lies within the data. -/
  stop_le : stop ≤ size
  /-- It is not too large. -/
  length_le : stop - start ≤ 256
  /-- It holds the last difference, unless it ends before that because of its size. -/
  covers : last < stop ∨ start + 256 ≤ last
  /-- It ends where a line does, or with the data. -/
  whole : 16 ∣ stop ∨ stop = size

/-- **The window that is chosen.** -/
theorem window_spec (hle : first ≤ last) (hlt : last < size) :
    Window first last size (window first last size).1 (window first last size).2 := by
  simp only [window, maxDump]
  constructor <;> omega

/-! ### Dumps of the window -/

/-- The text is the dump of the window from `start` up to `stop` of some data: the window lies
within the data, and the text consists of the lines of the dump of all the data that begin in the
window. -/
structure Shows (bytes : List UInt8) (size start stop : Nat) (text : String) : Prop where
  bounds : start ≤ stop ∧ stop ≤ bytes.length
  slice : text = Hexdump.render ((bytes.take stop).drop start) start
  lines : text.toList =
    Hexdump.excerpt (Hexdump.render (bytes.take size) 0).toList (start / 16) ((stop + 15) / 16)

theorem cut_eq (bytes : List UInt8) (start stop : Nat) :
    cut bytes (start, stop) = (bytes.take stop).drop start := by
  rw [cut, List.drop_take]

/-- **A dump of the window shows the lines of the whole dump.** -/
theorem shows_render (hwindow : Window first last size start stop) (hsize : size ≤ bytes.length) :
    Shows bytes size start stop (Hexdump.render (cut bytes (start, stop)) start) := by
  have hstop := hwindow.stop_le
  have hlength : (bytes.take size).length = size := by rw [List.length_take]; omega
  refine ⟨⟨?_, Nat.le_trans hstop hsize⟩, by rw [cut_eq], ?_⟩
  · have hstart := hwindow.start_le
    have hlt := hwindow.lt_stop
    omega
  · have hwhole : 16 ∣ stop ∨ stop = (bytes.take size).length := hlength.symm ▸ hwindow.whole
    have hexcerpt := Hexdump.renderChars_excerpt 0 hwindow.aligned hwhole (hlength.symm ▸ hstop)
    rw [List.take_take, Nat.min_eq_left hstop, Nat.zero_add] at hexcerpt
    rw [Hexdump.render, Hexdump.render, String.toList_ofList, String.toList_ofList, cut_eq, hexcerpt]

/-! ### The records -/

/-- The data of the output is as good as the output itself, in a window within the data. -/
theorem cut_dataOf (h : stop ≤ given.length) :
    cut (dataOf given found) (start, stop) = cut found (start, stop) := by
  rw [cut_eq, cut_eq, dataOf, List.take_take, Nat.min_eq_left h]

theorem guardOf_eq (given found : List UInt8) :
    guardOf given found = found.drop (min given.length found.length) := by
  rw [guardOf]
  rcases Nat.le_total given.length found.length with h | h
  · rw [Nat.min_eq_left h]
  · rw [Nat.min_eq_right h, List.drop_of_length_le h, List.drop_length]

/-- The two records about data that differs show the same window, once of the input and once of the
output. -/
theorem reportData_shows (h : ∃ i, DiffersAt given found i) :
    ∃ first last, IsLeast {i | DiffersAt given found i} first ∧
      IsGreatest {i | DiffersAt given found i} last ∧
      ∃ start stop expected got,
        Window first last (min given.length found.length) start stop ∧
        Shows given (min given.length found.length) start stop expected ∧
        Shows found (min given.length found.length) start stop got ∧
        reportData given found =
          [failure ("data verification failed at offset 0x" ++ Text.hex first ++ ", expected:\n" ++
              expected),
           failure ("got:\n" ++ got)] := by
  obtain ⟨first, hfound⟩ : ∃ first, firstDifference given found = some first := by
    refine Option.ne_none_iff_exists'.1 fun hnone => ?_
    obtain ⟨i, hi⟩ := h
    exact firstDifference_eq_none.1 hnone i hi
  have hfirst := firstDifference_isLeast.1 hfound
  obtain ⟨last, hlastfound, hlast⟩ :=
    (lastDifference_isGreatest given found).resolve_left fun hnone => hnone.2 first hfirst.1
  have hwindow := window_spec (hfirst.2 hlast.1) hlast.1.1
  have hgiven : min given.length found.length ≤ given.length := Nat.min_le_left _ _
  have hgot : Shows found _ _ _ _ := shows_render hwindow (Nat.min_le_right _ _)
  rw [← cut_dataOf (Nat.le_trans hwindow.stop_le hgiven)] at hgot
  refine ⟨first, last, hfirst, hlast, _, _, _, _, hwindow, shows_render hwindow hgiven, hgot, ?_⟩
  rw [reportData, hfound, hlastfound]
  rfl

/-- The second line of the data differs, and there is a byte in the guard. -/
example :
    let text := (List.range 20).map fun i => UInt8.ofNat (i + 65)
    report text (text.set 17 33 ++ [0, 7]) =
      [failure ("data verification failed at offset 0x11, expected:\n" ++
        "00000010: 51 52 53 54                                     | QRST\n"),
       failure ("got:\n" ++ "00000010: 51 21 53 54                                     | Q!ST\n"),
       failure ("trailing zero verification failed!\n" ++
        "00000014: 00 07                                           | ..\n")] := by
  decide +kernel

end Offload.Verification
