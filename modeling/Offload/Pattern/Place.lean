/-
**Places in a text that is read.**

A reader walks through the text of a pattern character by character and knows the line and the
column where it stands, so that what is wrong can be shown where it is.  On demand it passes over
blanks and over comments, which run from a number sign to the end of the line.

Main definitions:

* `Pattern.Place`, `Pattern.Span` — a place, and what lies between two of them;
* `Pattern.Cursor` — what is left to read, from which place on;
* `Cursor.next`, `Cursor.skip`, `Cursor.step` — over one character, over blanks, over both.

Main results:

* `Cursor.length_next`, `Cursor.length_skip_le` — what is left never grows, and gets shorter with
  each character.
-/

import Offload.Text.Blank

set_option relaxedAutoImplicit false
set_option autoImplicit false

namespace Offload.Pattern

/-- A place between two characters: how many characters stand before it, and its line and column,
both counted from one. -/
structure Place where
  index : Nat
  line : Nat
  column : Nat
  deriving DecidableEq, Repr

namespace Place

/-- The place before the first character. -/
def first : Place := ⟨0, 1, 1⟩

/-- The place after a character. -/
def after (p : Place) (c : Char) : Place :=
  if c = '\n' then ⟨p.index + 1, p.line + 1, 1⟩ else ⟨p.index + 1, p.line, p.column + 1⟩

end Place

/-- What lies between two places. -/
structure Span where
  start : Place
  stop : Place
  deriving DecidableEq, Repr

/-- Nothing, at a place. -/
def Span.empty (p : Place) : Span := ⟨p, p⟩

/-- What is left to read, the place where it begins, and whether blanks and comments in it stand
for nothing. -/
structure Cursor where
  rest : List Char
  place : Place
  blanksOff : Bool

namespace Cursor

/-- Before the first character of a text. -/
def ofChars (cs : List Char) : Cursor := ⟨cs, .first, false⟩

/-- The character that comes next. -/
def char? (c : Cursor) : Option Char := c.rest.head?

/-- Is nothing left to read? -/
def atEnd (c : Cursor) : Bool := c.rest.isEmpty

/-- The place of the cursor, as a span. -/
def here (c : Cursor) : Span := .empty c.place

/-- The span from a place to the cursor. -/
def since (c : Cursor) (start : Place) : Span := ⟨start, c.place⟩

/-- After the next character, if there is one. -/
def next (c : Cursor) : Cursor :=
  match c.rest with
  | [] => c
  | x :: rest => { c with rest, place := c.place.after x }

/-- The span of the next character. -/
def charSpan (c : Cursor) : Span := ⟨c.place, c.next.place⟩

/-- After so many characters. -/
def advance : Nat → Cursor → Cursor
  | 0, c => c
  | n + 1, c => advance n c.next

/-- After the given characters, if they come next. -/
def past? (expected : String) (c : Cursor) : Option Cursor :=
  if expected.toList.isPrefixOf c.rest then some (c.advance expected.length) else none

/-- What is left of a text, and its place, after blanks and comments; `true` inside a comment. -/
def skipFrom : Bool → Place → List Char → List Char × Place
  | _, p, [] => ([], p)
  | true, p, x :: rest => skipFrom (x ≠ '\n') (p.after x) rest
  | false, p, x :: rest =>
    if Text.isBlank x then skipFrom false (p.after x) rest
    else if x = '#' then skipFrom true (p.after x) rest
    else (x :: rest, p)

/-- After the blanks and comments that come next, if they stand for nothing. -/
def skip (c : Cursor) : Cursor :=
  if c.blanksOff then
    let (rest, place) := skipFrom false c.place c.rest
    { c with rest, place }
  else c

/-- After the next character, and the blanks and comments behind it. -/
def step (c : Cursor) : Cursor := c.next.skip

/-- The character after the next one. -/
def second? (c : Cursor) : Option Char := c.next.char?

/-- Drops blanks, and a number sign that stands among them: what follows it is not taken for a
comment. -/
def dropBlanks : Bool → List Char → List Char
  | _, [] => []
  | signSeen, x :: rest =>
    if Text.isBlank x then dropBlanks signSeen rest
    else if !signSeen && x = '#' then dropBlanks true rest
    else x :: rest

/-- The character after the next one, and after blanks, if they stand for nothing.  At the end of
a text blanks count. -/
def secondPastBlanks? (c : Cursor) : Option Char :=
  if c.blanksOff then (dropBlanks false c.next.rest).head?.or c.second? else c.second?

/-! ### What is left -/

@[simp] theorem length_next (c : Cursor) : c.next.rest.length = c.rest.length - 1 := by
  cases h : c.rest <;> simp [next, h]

@[simp] theorem rest_next (c : Cursor) : c.next.rest = c.rest.tail := by
  cases h : c.rest <;> simp [next, h]

theorem length_skipFrom_le (inComment : Bool) (p : Place) (cs : List Char) :
    (skipFrom inComment p cs).1.length ≤ cs.length := by
  induction cs generalizing inComment p with
  | nil => cases inComment <;> simp [skipFrom]
  | cons x cs ih =>
      have step (b : Bool) : (skipFrom b (p.after x) cs).1.length ≤ (x :: cs).length :=
        Nat.le_trans (ih b _) (Nat.le_succ _)
      cases inComment with
      | true => exact step _
      | false =>
          simp only [skipFrom]
          split
          · exact step _
          · split
            · exact step _
            · exact Nat.le_refl _

theorem length_skip_le (c : Cursor) : c.skip.rest.length ≤ c.rest.length := by
  unfold skip
  split
  · exact length_skipFrom_le ..
  · exact Nat.le_refl _

theorem length_step_le (c : Cursor) : c.step.rest.length ≤ c.rest.length - 1 :=
  Nat.le_trans (length_skip_le c.next) (by simp)

theorem length_step_lt {c : Cursor} {x : Char} {rest : List Char} (h : c.step.rest = x :: rest) :
    c.step.rest.length < c.rest.length := by
  have := length_step_le c
  simp only [h, List.length_cons] at this ⊢
  omega

/-! ### Runs of characters -/

/-- The characters for which a condition holds, each read after a step, with their spans; the
cursor ends before the first other one, or at the end of the text. -/
def stepWhile (holds : Char → Bool) (c : Cursor) : List (Char × Span) × Cursor :=
  match _h : c.step.rest with
  | [] => ([], c.step)
  | x :: _ =>
    if holds x then
      let (more, stop) := stepWhile holds c.step
      ((x, c.step.charSpan) :: more, stop)
    else ([], c.step)
termination_by c.rest.length
decreasing_by exact length_step_lt ‹_›

/-- After the blanks that come next. -/
def skipBlanks (c : Cursor) : Cursor :=
  let blanks := c.rest.takeWhile Text.isBlank
  c.advance blanks.length

end Cursor

end Offload.Pattern
