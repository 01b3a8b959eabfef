/-
**Sets of characters.**

A set is kept as ranges that are in order and do not touch, so that two sets of the same
characters are written alike and the number of ranges tells how much room a set takes up.

Main definitions:

* `Pattern.CharRange`, `Pattern.CharSet` — a range, a set; `CharSet.mem` — membership;
* `CharSet.union`, `CharSet.inter`, `CharSet.diff`, `CharSet.symmDiff`, `CharSet.compl` — the
  operations on sets; `CharSet.anyCase` — what is in a set in one case or the other;
* `CharSet.ofShorthand`, `CharSet.ofAsciiClass` — the sets that have a name.

Main results:

* `CharSet.mem_union`, `CharSet.mem_ofList` — a union holds what one of its parts holds;
* `CharSet.mem_inter` — an intersection holds what both hold.
-/

import Offload.Pattern.Tree

set_option relaxedAutoImplicit false
set_option autoImplicit false

namespace Offload.Pattern

/-! ### Ranges -/

/-- The characters from the first to the last one. -/
structure CharRange where
  first : Char
  last : Char
  deriving DecidableEq, Repr

/-- The character before another one; there are none between `\ud7ff` and `\ue000`. -/
def charBefore (c : Char) : Char :=
  if c = '\ue000' then '\ud7ff' else Char.ofNat (c.toNat - 1)

/-- The character behind another one. -/
def charBehind (c : Char) : Char :=
  if c = '\ud7ff' then '\ue000' else Char.ofNat (c.toNat + 1)

/-- The last character there is. -/
def lastChar : Char := Char.ofNat 0x10ffff

namespace CharRange

/-- Is a character in the range? -/
def mem (c : Char) (r : CharRange) : Bool := r.first ≤ c && c ≤ r.last

/-- Does one range end before another one begins, with a number between them that is in neither? -/
def isApartBefore (r s : CharRange) : Bool := r.last.toNat + 1 < s.first.toNat

/-- The least range that holds both. -/
def hull (r s : CharRange) : CharRange where
  first := if r.first ≤ s.first then r.first else s.first
  last := if r.last ≤ s.last then s.last else r.last

/-- What two ranges have in common, if anything. -/
def inter? (r s : CharRange) : Option CharRange :=
  let first := if r.first ≤ s.first then s.first else r.first
  let last := if r.last ≤ s.last then r.last else s.last
  if first ≤ last then some ⟨first, last⟩ else none

/-- What is left of the first range without the second one. -/
def minus (r s : CharRange) : List CharRange :=
  if (r.inter? s).isNone then [r]
  else
    (if r.first < s.first then [⟨r.first, charBefore s.first⟩] else []) ++
      (if s.last < r.last then [⟨charBehind s.last, r.last⟩] else [])

/-- What is between two ranges.  If there is nothing, both ends that meet there are: so it is with
a range up to `\ud7ff` and one from `\ue000` on. -/
def gap (r s : CharRange) : CharRange :=
  let first := charBehind r.last
  let last := charBefore s.first
  if first ≤ last then ⟨first, last⟩ else ⟨last, first⟩

/-- The letters from `first` to `last` that are in the range, moved to the other case. -/
def moved (r : CharRange) (first last : Char) (move : Char → Char) : List CharRange :=
  match r.inter? ⟨first, last⟩ with
  | some s => [⟨move s.first, move s.last⟩]
  | none => []

theorem mem_hull {r s : CharRange} (hr : r.isApartBefore s = false)
    (hs : s.isApartBefore r = false) (c : Char) : (r.hull s).mem c = (r.mem c || s.mem c) := by
  simp only [isApartBefore, decide_eq_false_iff_not, Nat.not_lt] at hr hs
  simp only [mem, hull, Char.le_def, UInt32.le_iff_toNat_le]
  simp only [Char.toNat] at hr hs
  rw [Bool.eq_iff_iff]
  simp only [Bool.and_eq_true, Bool.or_eq_true, decide_eq_true_eq]
  split <;> split <;> omega

end CharRange

/-! ### Sets -/

/-- A set of characters: ranges in order, none of which touches the next one. -/
structure CharSet where
  ranges : List CharRange
  deriving DecidableEq, Repr

namespace CharSet

/-- Is a character in the set? -/
def mem (c : Char) (s : CharSet) : Bool := s.ranges.any (CharRange.mem c)

/-- No character. -/
def empty : CharSet := ⟨[]⟩

/-- The characters in a range. -/
def range (first last : Char) : CharSet := ⟨[⟨first, last⟩]⟩

/-- The set of one character. -/
def single (c : Char) : CharSet := range c c

/-- All characters. -/
def all : CharSet := range '\x00' lastChar

/-- Ranges with one more, which is joined with those that it touches. -/
def insert (r : CharRange) : List CharRange → List CharRange
  | [] => [r]
  | s :: rest =>
    if r.isApartBefore s then r :: s :: rest
    else if s.isApartBefore r then s :: insert r rest
    else insert (r.hull s) rest

/-- What is in one set or the other. -/
def union (s t : CharSet) : CharSet := ⟨s.ranges.foldr insert t.ranges⟩

/-- What is in both sets. -/
def inter (s t : CharSet) : CharSet :=
  ⟨s.ranges.flatMap fun r => t.ranges.filterMap r.inter?⟩

/-- What is in the first set and not in the second one. -/
def diff (s t : CharSet) : CharSet :=
  ⟨t.ranges.foldl (fun left r => left.flatMap fun l => l.minus r) s.ranges⟩

/-- What is in one of the sets alone. -/
def symmDiff (s t : CharSet) : CharSet := (s.union t).diff (s.inter t)

/-- What is between ranges, and behind the last one. -/
def gaps : List CharRange → List CharRange
  | [] => []
  | [r] => if r.last < lastChar then [⟨charBehind r.last, lastChar⟩] else []
  | r :: s :: rest => r.gap s :: gaps (s :: rest)

/-- What is not in the set. -/
def compl (s : CharSet) : CharSet :=
  match s.ranges with
  | [] => all
  | r :: rest =>
    let before : List CharRange :=
      if '\x00' < r.first then [⟨'\x00', charBefore r.first⟩] else []
    ⟨before ++ gaps (r :: rest)⟩

/-- What is in the set in one case or the other, where case is that of ASCII letters. -/
def anyCase (s : CharSet) : CharSet :=
  let others := s.ranges.flatMap fun r =>
    r.moved 'a' 'z' Char.toUpper ++ r.moved 'A' 'Z' Char.toLower
  union ⟨others⟩ s

/-- The set of the characters in ranges. -/
def ofList (ranges : List (Char × Char)) : CharSet :=
  ranges.foldr (fun r s => union (range r.1 r.2) s) empty

/-- The only character of the set, if there is one. -/
def single? (s : CharSet) : Option Char :=
  match s.ranges with
  | [r] => if r.first = r.last then some r.first else none
  | _ => none

/-- Are all characters in the set ASCII characters? -/
def isAscii (s : CharSet) : Bool := s.ranges.all fun r => r.last ≤ '\x7f'

/-- The result of an operation on two sets. -/
def operate : SetOp → CharSet → CharSet → CharSet
  | .inter => inter
  | .diff => diff
  | .symmDiff => symmDiff

theorem any_insert (c : Char) (r : CharRange) (ranges : List CharRange) :
    (insert r ranges).any (CharRange.mem c) = (r.mem c || ranges.any (CharRange.mem c)) := by
  induction ranges generalizing r with
  | nil => simp [insert]
  | cons s rest ih =>
      unfold insert
      split
      · simp
      · split
        · simp [ih, Bool.or_left_comm]
        · rename_i hr hs
          rw [ih, CharRange.mem_hull (by simpa using hr) (by simpa using hs)]
          simp [Bool.or_assoc]

@[simp] theorem mem_union (c : Char) (s t : CharSet) :
    (s.union t).mem c = (s.mem c || t.mem c) := by
  obtain ⟨ranges⟩ := s
  induction ranges with
  | nil => simp [union, mem]
  | cons r ranges ih =>
      simp only [union, mem, List.foldr_cons, any_insert, List.any_cons] at *
      rw [ih, Bool.or_assoc]

@[simp] theorem mem_range (c first last : Char) :
    (range first last).mem c = (first ≤ c && c ≤ last) := by
  simp [range, mem, CharRange.mem]

theorem mem_ofList (c : Char) (ranges : List (Char × Char)) :
    (ofList ranges).mem c = ranges.any fun r => r.1 ≤ c && c ≤ r.2 := by
  induction ranges with
  | nil => rfl
  | cons r ranges ih =>
      simp only [ofList, List.foldr_cons, mem_union, mem_range, List.any_cons] at *
      rw [ih]

@[simp] theorem mem_inter (c : Char) (s t : CharSet) :
    (s.inter t).mem c = (s.mem c && t.mem c) := by
  have one (r x : CharRange) : (r.inter? x).any (CharRange.mem c) = (r.mem c && x.mem c) := by
    rw [Bool.eq_iff_iff]
    simp only [CharRange.inter?, CharRange.mem, Char.le_def, UInt32.le_iff_toNat_le]
    split <;> split <;> split <;>
      simp only [Option.any_some, Option.any_none, Bool.and_eq_true, decide_eq_true_eq, Char.le_def,
        UInt32.le_iff_toNat_le, CharRange.mem, Bool.false_eq_true, false_iff] <;> omega
  rw [Bool.eq_iff_iff]
  simp only [mem, inter, List.any_flatMap, List.any_filterMap, Bool.and_eq_true, List.any_eq_true]
  constructor
  · rintro ⟨r, hr, x, hx, h⟩
    have := one r x
    cases hrx : r.inter? x with
    | none => simp [hrx] at h
    | some y =>
        simp only [hrx, Option.any_some] at h this
        rw [h] at this
        have := (Bool.and_eq_true _ _).mp this.symm
        exact ⟨⟨r, hr, this.1⟩, x, hx, this.2⟩
  · rintro ⟨⟨r, hr, hrc⟩, x, hx, hxc⟩
    refine ⟨r, hr, x, hx, ?_⟩
    have := one r x
    cases hrx : r.inter? x with
    | none => simp [hrx, hrc, hxc] at this
    | some y => simpa [hrx, hrc, hxc] using this

/-! ### Named sets -/

/-- The ASCII characters of a class. -/
def ofAsciiClass : AsciiClass → CharSet
  | .alnum => ofList [('0', '9'), ('A', 'Z'), ('a', 'z')]
  | .alpha => ofList [('A', 'Z'), ('a', 'z')]
  | .ascii => ofList [('\x00', '\x7f')]
  | .blank => ofList [('\t', '\t'), (' ', ' ')]
  | .cntrl => ofList [('\x00', '\x1f'), ('\x7f', '\x7f')]
  | .digit => ofList [('0', '9')]
  | .graph => ofList [('!', '~')]
  | .lower => ofList [('a', 'z')]
  | .print => ofList [(' ', '~')]
  | .punct => ofList [('!', '/'), (':', '@'), ('[', '\x60'), ('\x7b', '~')]
  | .space => ofList [('\t', '\r'), (' ', ' ')]
  | .upper => ofList [('A', 'Z')]
  | .word => ofList [('0', '9'), ('A', 'Z'), ('_', '_'), ('a', 'z')]
  | .xdigit => ofList [('0', '9'), ('A', 'F'), ('a', 'f')]

/-- The ASCII characters of a shorthand. -/
def ofShorthand : Shorthand → CharSet
  | .digit => ofAsciiClass .digit
  | .space => ofAsciiClass .space
  | .word => ofAsciiClass .word

end CharSet

end Offload.Pattern
