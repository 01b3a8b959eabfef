/-
**Sequences behind a backslash.**

A backslash takes away or gives a meaning: it makes a character of an operator, names a character
by its number, a set by a letter or a property, or a place at the edge of a word.

Main definitions:

* `Pattern.readHex`, `Pattern.readProperty`, `Pattern.readEdge` — what follows `\x`, `\p` and
  `\b`;
* `Pattern.readEscape` — a whole sequence.
-/

import Offload.Pattern.Tree

set_option relaxedAutoImplicit false
set_option autoImplicit false

namespace Offload.Pattern

/-! ### Characters by number -/

/-- The value of a hexadecimal digit. -/
def hexDigit? (c : Char) : Option Nat :=
  if '0' ≤ c ∧ c ≤ '9' then some (c.toNat - 48)
  else if 'a' ≤ c ∧ c ≤ 'f' then some (c.toNat - 87)
  else if 'A' ≤ c ∧ c ≤ 'F' then some (c.toNat - 55)
  else none

/-- The number that hexadecimal digits write. -/
def hexValue (digits : List Char) : Nat :=
  digits.foldl (fun n c => n * 16 + (hexDigit? c).getD 0) 0

/-- The character of a number, if there is one. -/
def charOf? (n : Nat) : Option Char := if n.isValidChar then some (Char.ofNat n) else none

/-- Reads so many hexadecimal digits; the cursor ends before the last one. -/
def readDigits : Nat → Cursor → Reading (List Char × Cursor)
  | 0, c => .ok ([], c)
  | n + 1, c =>
    match c.char? with
    | none => refuse .escapeAtEnd c.here
    | some x =>
      if (hexDigit? x).isSome then
        match n with
        | 0 => .ok ([x], c)
        | n + 1 => (readDigits (n + 1) c.step).map fun (more, stop) => (x :: more, stop)
      else refuse .hexDigit c.charSpan

/-- How many digits a number has after the letter that announces it. -/
def hexWidth (letter : Char) : Nat :=
  if letter = 'x' then 2 else if letter = 'u' then 4 else 8

/-- Reads a number in braces; the cursor is before the opening one. -/
def readBracedHex (start : Place) (c : Cursor) : Reading (Literal × Cursor) :=
  let (inside, close) := c.stepWhile (· ≠ '\x7d')
  match inside.find? fun x => (hexDigit? x.1).isNone with
  | some (_, span) => refuse .hexDigit span
  | none =>
    if close.atEnd then refuse .escapeAtEnd (close.since c.place)
    else
      let stop := close.step
      let digits := inside.map Prod.fst
      if digits.isEmpty then refuse .hexEmpty (stop.since c.place)
      else
        match charOf? (hexValue digits) with
        | none => refuse .hexNoCharacter (close.since c.next.place)
        | some x => .ok (⟨stop.since start, x, false⟩, stop)

/-- Reads a number; the cursor is before the letter that announces it, and `start` before the
backslash. -/
def readHex (start : Place) (letter : Char) (c : Cursor) : Reading (Literal × Cursor) :=
  let c := c.step
  match c.char? with
  | none => refuse .escapeAtEnd c.here
  | some '\x7b' => readBracedHex start c
  | some _ =>
    match readDigits (hexWidth letter) c with
    | .error r => .error r
    | .ok (digits, last) =>
      let stop := last.step
      match charOf? (hexValue digits) with
      | none => refuse .hexNoCharacter (stop.since c.place)
      | some x => .ok (⟨stop.since start, x, letter = 'x'⟩, stop)

/-! ### Sets by property -/

/-- Reads the name of a property; the cursor is before the letter that announces it. -/
def readProperty (start : Place) (negated : Bool) (c : Cursor) : Reading (Atom × Cursor) :=
  let c := c.step
  match c.char? with
  | none => refuse .escapeAtEnd c.here
  | some '\x7b' =>
    let (name, close) := c.stepWhile (· ≠ '\x7d')
    if close.atEnd then refuse .escapeAtEnd close.here
    else
      let stop := close.next
      .ok (.named (stop.since start) (.property (name.map Prod.fst)) negated, stop)
  | some '\\' => refuse .className c.charSpan
  | some x => .ok (.named (c.step.since start) (.property [x]) negated, c.step)

/-! ### Edges of words -/

/-- May the character stand in the name of an edge? -/
def isEdgeChar (c : Char) : Bool := c.isAlpha || c = '-'

/-- The edge of a name. -/
def edgeOf? (name : String) : Option WordEdge :=
  if name = "start" then some .start
  else if name = "end" then some .stop
  else if name = "start-half" then some .startHalf
  else if name = "end-half" then some .stopHalf
  else none

/-- Reads the name of an edge in braces after `\b`, before which `start` is.  Where no name can
begin there is none, and the brace is left to be read as a count. -/
def readEdge (start : Place) (c : Cursor) : Reading (Atom × Cursor) :=
  let plain : Atom × Cursor := (.anchor (c.since start) (.word .boundary), c)
  if c.char? ≠ some '\x7b' then .ok plain
  else
    let first := c.step
    match first.char? with
    | none => refuse .edgeAtEnd (first.since start)
    | some x =>
      if isEdgeChar x then
        let (more, close) := first.stepWhile isEdgeChar
        if close.char? ≠ some '\x7d' then refuse .edgeUnclosed (close.since c.place)
        else
          match edgeOf? (String.ofList (x :: more.map Prod.fst)) with
          | none => refuse .edgeUnknown (close.since first.place)
          | some edge => .ok (.anchor (close.next.since start) (.word edge), close.next)
      else .ok plain

/-! ### All sequences -/

/-- May the character stand behind a backslash for itself?  Operators may, and so may every other
ASCII character but letters, digits and angle brackets. -/
def isEscapable (c : Char) : Bool :=
  c.toNat < 128 && !c.isAlphanum && c ≠ '<' && c ≠ '>'

/-- The control character of a letter. -/
def controlOf? (c : Char) : Option Char :=
  match c with
  | 'a' => some '\x07'
  | 'f' => some '\x0c'
  | 't' => some '\t'
  | 'n' => some '\n'
  | 'r' => some '\r'
  | 'v' => some '\x0b'
  | _ => none

/-- The condition on a place of a letter, `\b` apart. -/
def anchorOf? (c : Char) : Option Anchor :=
  match c with
  | 'A' => some .textStart
  | 'z' => some .textStop
  | 'B' => some (.word .noBoundary)
  | '<' => some (.word .start)
  | '>' => some (.word .stop)
  | _ => none

/-- The set of a letter, and whether it is what is not in it. -/
def shorthandOf? (c : Char) : Option (Shorthand × Bool) :=
  match c with
  | 'd' => some (.digit, false)
  | 's' => some (.space, false)
  | 'w' => some (.word, false)
  | 'D' => some (.digit, true)
  | 'S' => some (.space, true)
  | 'W' => some (.word, true)
  | _ => none

/-- What one character behind a backslash stands for, when nothing more belongs to it. -/
def simpleEscape? (span : Span) (x : Char) : Option Atom :=
  if isEscapable x then some (.literal ⟨span, x, false⟩)
  else
    match controlOf? x, anchorOf? x, shorthandOf? x with
    | some control, _, _ => some (.literal ⟨span, control, false⟩)
    | none, some anchor, _ => some (.anchor span anchor)
    | none, none, some (kind, negated) => some (.named span (.shorthand kind) negated)
    | none, none, none => none

/-- Reads a sequence; the cursor is before the backslash. -/
def readEscape (c : Cursor) : Reading (Atom × Cursor) :=
  let start := c.place
  let c := c.next
  match c.char? with
  | none => refuse .escapeAtEnd (c.since start)
  | some x =>
    let span := c.next.since start
    if x.isDigit then refuse .backReference span
    else if x = 'x' ∨ x = 'u' ∨ x = 'U' then
      (readHex start x c).map fun (l, stop) => (.literal l, stop)
    else if x = 'p' ∨ x = 'P' then readProperty start (x = 'P') c
    else if x = 'b' then readEdge start c.next
    else
      match simpleEscape? span x with
      | some a => .ok (a, c.next)
      | none => refuse .escapeUnknown span

end Offload.Pattern
