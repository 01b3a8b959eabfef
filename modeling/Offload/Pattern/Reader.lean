/-
**Reading a pattern.**

A pattern is read from left to right.  What is read so far is kept as a stack: each group that is
open waits for its end with what was read before it, and the branches of an alternation wait for
the last one.

Main definitions:

* `Pattern.Parts`, `Pattern.Frame`, `Pattern.Reader` — what is read so far;
* `Pattern.Reader.step` — one group, class, operator or character;
* `Tree.read` — a whole pattern.
-/

import Offload.Pattern.Bracket
import Offload.Pattern.Group
import Offload.Pattern.Repetition

set_option relaxedAutoImplicit false
set_option autoImplicit false

namespace Offload.Pattern

/-- Parts one after another, the last one first, and the place where they begin. -/
structure Parts where
  start : Place
  trees : List Tree

namespace Parts

/-- Nothing is read yet. -/
def empty (c : Cursor) : Parts := ⟨c.place, []⟩

/-- One part more. -/
def push (p : Parts) (t : Tree) : Parts := { p with trees := t :: p.trees }

/-- The parts as one, up to a place. -/
def tree (p : Parts) (stop : Place) : Tree := .ofParts ⟨p.start, stop⟩ p.trees.reverse

end Parts

/-- What waits while a pattern is read. -/
inductive Frame where
  /-- An open group: what was read before it, the parenthesis, whether it captures, the switches
  inside, and whether blanks stood for nothing before it. -/
  | group (before : Parts) (opening : Span) (captures : Bool) (change : Switches) (blanksOff : Bool)
  /-- The branches of an alternation, the last one first, and the place where they begin. -/
  | branches (start : Place) (trees : List Tree)

/-- A pattern so far: what is left to read, what waits, the parts of the innermost group, and the
names of groups. -/
structure Reader where
  cursor : Cursor
  frames : List Frame
  parts : Parts
  names : Names

namespace Reader

/-- The pattern with one part more, up to a cursor. -/
def push (s : Reader) (t : Tree) (c : Cursor) : Reader :=
  { s with cursor := c, parts := s.parts.push t }

/-- The parts of the innermost group with the branches before them, and what waits behind. -/
def closed (s : Reader) : Tree × List Frame :=
  let stop := s.cursor.place
  match s.frames with
  | .branches start trees :: rest =>
    (.alternation ⟨start, stop⟩ (s.parts.tree stop :: trees).reverse, rest)
  | frames => (s.parts.tree stop, frames)

/-- Reads what opens a group. -/
def openGroup (s : Reader) : Reading Reader :=
  match readOpening s.names s.cursor with
  | .error r => .error r
  | .ok (opening, names, c) =>
    let s := { s with names }
    let before := s.cursor.blanksOff
    match opening with
    | .switches span change =>
      .ok (s.push (.switches span change)
        { c with blanksOff := change.apply .ignoreBlanks before })
    | .group span captures change =>
      .ok { s with
        cursor := { c with blanksOff := change.apply .ignoreBlanks before }
        frames := .group s.parts span captures change before :: s.frames
        parts := .empty c }

/-- Reads what closes a group. -/
def closeGroup (s : Reader) : Reading Reader :=
  let (body, frames) := s.closed
  match frames with
  | .group before opening captures change blanksOff :: rest =>
    let c := { s.cursor.next with blanksOff }
    .ok { s with
      cursor := c
      frames := rest
      parts := before.push (.group (c.since opening.start) captures change body) }
  | _ => refuse .groupUnopened s.cursor.charSpan

/-- Reads what ends a branch. -/
def endBranch (s : Reader) : Reader :=
  let stop := s.cursor.place
  let branch := s.parts.tree stop
  let frames : List Frame := match s.frames with
    | .branches start trees :: rest => .branches start (branch :: trees) :: rest
    | frames => .branches s.parts.start [branch] :: frames
  { s with cursor := s.cursor.next, frames, parts := .empty s.cursor.next }

/-- Reads an operator that repeats the last part. -/
def repeatLast (s : Reader) (x : Char) : Reading Reader :=
  (readRepetition s.parts.trees.head? x s.cursor).map fun (t, c) =>
    { s with cursor := c, parts := { s.parts with trees := t :: s.parts.trees.tail } }

/-- The atom of a character that is no sequence. -/
def atomOf (span : Span) (x : Char) : Atom :=
  if x = '.' then .anyChar span
  else if x = '^' then .anchor span .lineStart
  else if x = '$' then .anchor span .lineStop
  else .literal ⟨span, x, false⟩

/-- One group, class, operator or character; `x` comes next. -/
def step (s : Reader) (x : Char) : Reading Reader :=
  let c := s.cursor
  if x = '(' then s.openGroup
  else if x = ')' then s.closeGroup
  else if x = '|' then .ok s.endBranch
  else if x = '[' then (readClass c).map fun (item, c) => s.push (.set item) c
  else if x = '?' ∨ x = '*' ∨ x = '+' ∨ x = '\x7b' then s.repeatLast x
  else if x = '\\' then (readEscape c).map fun (a, c) => s.push (.atom a) c
  else .ok (s.push (.atom (atomOf c.charSpan x)) c.next)

/-- The whole pattern, when nothing is left to read. -/
def finish (s : Reader) : Reading Tree :=
  match s.closed with
  | (t, []) => .ok t
  | (_, .group _ opening _ _ _ :: _) => refuse .groupUnclosed opening
  | (t, .branches _ _ :: _) => .ok t

/-- Takes at most so many steps. -/
def run : Nat → Reader → Reading Tree
  | 0, s => s.finish
  | fuel + 1, s =>
    let s := { s with cursor := s.cursor.skip }
    match s.cursor.char? with
    | none => s.finish
    | some x =>
      match s.step x with
      | .error r => .error r
      | .ok s => run fuel s

end Reader

/-- Reads a pattern.  Each step reads a character, so that there are enough of them. -/
def Tree.read (cs : List Char) : Reading Tree := do
  let c := Cursor.ofChars cs
  let t ← Reader.run (cs.length + 1) ⟨c, [], .empty c, []⟩
  match t.tooDeep? nestLimit with
  | some span => refuse (.nestedTooDeep nestLimit) span
  | none => return t

end Offload.Pattern
