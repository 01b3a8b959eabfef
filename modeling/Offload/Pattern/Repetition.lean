/-
**How often a part is repeated.**

A part is repeated any number of times, at least once, at most once, or as often as a count in
braces says.  A question mark behind that makes no difference to what matches, only to how much.

Main definitions:

* `Pattern.Repetition` — the least and the greatest number of times, and the question mark;
* `Pattern.readCount` — a count in braces;
* `Pattern.readRepetition` — any of the operators.
-/

import Offload.Pattern.Tree

set_option relaxedAutoImplicit false
set_option autoImplicit false

namespace Offload.Pattern

/-- The least and the greatest number of times, if there is a greatest, and whether a question mark
stands behind it. -/
structure Repetition where
  least : Nat
  most : Option Nat
  isLazy : Bool
  deriving DecidableEq, Repr

/-! ### Counts -/

/-- The greatest number that may be written. -/
def greatestCount : Nat := 0xffffffff

/-- A number so far, and the cursor behind the digits and the blanks after them. -/
structure Decimal where
  /-- The number, or why there is none. -/
  value : Reading Nat
  cursor : Cursor

/-- Reads a number, with blanks before and behind it. -/
def readDecimal (c : Cursor) : Decimal :=
  let first := c.skipBlanks
  match first.char? with
  | none => ⟨refuse .countEmpty first.here, first⟩
  | some x =>
    if x.isDigit then
      let (more, stop) := first.stepWhile Char.isDigit
      let value := (x :: more.map Prod.fst).foldl (fun n d => n * 10 + (d.toNat - 48)) 0
      let read : Reading Nat :=
        if value ≤ greatestCount then .ok value
        else refuse .decimalTooLarge (stop.since first.place)
      ⟨read, stop.skipBlanks.skip⟩
    else ⟨refuse .countEmpty first.here, first⟩

/-- Is there a question mark, and the cursor behind it. -/
def readLazy (c : Cursor) : Bool × Cursor :=
  if c.char? = some '?' then (true, c.next) else (false, c)

/-- Reads what closes a count; the cursor is where that should be, and `start` before the opening
brace. -/
def closeCount (start : Place) (least : Nat) (most : Option Nat) (c : Cursor) :
    Reading (Repetition × Cursor) :=
  if c.char? ≠ some '\x7d' then refuse .countUnclosed (c.since start)
  else
    let (isLazy, stop) := readLazy c.step
    if most.all fun most => least ≤ most then .ok (⟨least, most, isLazy⟩, stop)
    else refuse .countOrder (stop.since start)

/-- Reads a count in braces; the cursor is before the opening one. -/
def readCount (c : Cursor) : Reading (Repetition × Cursor) :=
  let start := c.place
  let unclosed (c : Cursor) : Reading (Repetition × Cursor) :=
    refuse .countUnclosed (c.since start)
  let c := c.step
  if c.atEnd then unclosed c
  else
    let ⟨least, c⟩ := readDecimal c
    if c.atEnd then unclosed c
    else if c.char? = some ',' then
      let c := c.step
      if c.atEnd then unclosed c
      else if c.char? = some '\x7d' then do
        closeCount start (← least) none c
      else do
        let least ← least
        let most := readDecimal c
        closeCount start least (some (← most.value)) most.cursor
    else do
      let n ← least
      closeCount start n (some n) c

/-! ### All operators -/

/-- How often a part is repeated by an operator of one character. -/
def timesOf? (c : Char) : Option (Nat × Option Nat) :=
  match c with
  | '?' => some (0, some 1)
  | '*' => some (0, none)
  | '+' => some (1, none)
  | _ => none

/-- Reads the operator `x`, before which the cursor is, if there is a part that it may repeat. -/
def readRepetition (part : Option Tree) (x : Char) (c : Cursor) : Reading (Tree × Cursor) :=
  match part with
  | none | some (.empty _) | some (.switches _ _) => refuse .nothingToRepeat c.here
  | some body => do
    let (r, stop) ← match timesOf? x with
      | some (least, most) =>
        let (isLazy, stop) := readLazy c.next
        .ok (⟨least, most, isLazy⟩, stop)
      | none => readCount c
    return (.repetition (stop.since body.span.start) r.least r.most r.isLazy body, stop)

end Offload.Pattern
