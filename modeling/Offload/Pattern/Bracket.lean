/-
**Classes between brackets.**

A class lists characters, ranges, named sets and other classes, and joins them with what follows
`&&`, `--` or `~~`; after a caret it holds what is not listed.  A hyphen stands for itself at the
beginning, before the closing bracket and before another hyphen, and a closing bracket stands for
itself at the beginning.

A class that is being read is kept as a stack: each bracket that is open waits for its end with
what was listed before it, and each operation waits for its right side.

Main definitions:

* `Pattern.Listing`, `Pattern.ClassFrame`, `Pattern.ClassState` — what is read so far;
* `Pattern.ClassState.step` — one item, operation or bracket;
* `Pattern.readClass` — a whole class.
-/

import Offload.Pattern.Escape

set_option relaxedAutoImplicit false
set_option autoImplicit false

namespace Offload.Pattern

/-! ### What is listed -/

/-- Items one after another, the last one first, and their span. -/
structure Listing where
  span : Span
  items : List ClassItem

namespace Listing

/-- Nothing is listed yet. -/
def empty (c : Cursor) : Listing := ⟨c.here, []⟩

/-- One item more. -/
def push (l : Listing) (item : ClassItem) : Listing :=
  let start := if l.items.isEmpty then item.span.start else l.span.start
  ⟨⟨start, item.span.stop⟩, item :: l.items⟩

/-- The items as one: a single item stands for itself. -/
def item (l : Listing) : ClassItem :=
  match l.items with
  | [] => .empty l.span
  | [one] => one
  | items => .union l.span items.reverse

end Listing

/-- What waits while a class is read. -/
inductive ClassFrame where
  /-- An open bracket: what was listed before it, the span of its opening, and whether a caret
  follows it. -/
  | opened (before : Listing) (opening : Span) (negated : Bool)
  /-- An operation, and its left side. -/
  | operand (op : SetOp) (left : ClassItem)

/-- A class so far: what is left to read, what waits, and what is listed in the innermost
bracket. -/
structure ClassState where
  cursor : Cursor
  frames : List ClassFrame
  listing : Listing

namespace ClassState

/-- The class is not closed: that is the fault of the innermost open bracket. -/
def unclosed {α : Type} (frames : List ClassFrame) (c : Cursor) : Reading α :=
  match frames with
  | .opened _ opening _ :: _ => refuse .classUnclosed opening
  | .operand _ _ :: .opened _ opening _ :: _ => refuse .classUnclosed opening
  | _ => refuse .classUnclosed c.here

/-! ### Brackets -/

/-- Reads the hyphens at the beginning of a class, which opened at `start`. -/
def readHyphens (start : Place) (l : Listing) (c : Cursor) : Reading (Listing × Cursor) :=
  match c.rest with
  | '-' :: _ =>
    let l := l.push (.literal ⟨c.charSpan, '-', false⟩)
    match _h : c.step.rest with
    | [] => refuse .classUnclosed (.empty start)
    | _ :: _ => readHyphens start l c.step
  | _ => .ok (l, c)
termination_by c.rest.length
decreasing_by exact Cursor.length_step_lt ‹_›

/-- Reads what may stand after an opening bracket and nowhere else, up to the first item; the
cursor is before the bracket. -/
def openBracket (s : ClassState) : Reading ClassState :=
  let start := s.cursor.place
  let c := s.cursor.step
  if c.atEnd then refuse .classUnclosed (c.since start)
  else
    let negated : Bool := c.char? = some '^'
    let c := if negated then c.step else c
    if c.atEnd then refuse .classUnclosed (c.since start)
    else do
      let (l, c) ← readHyphens start (.empty c) c
      if l.items.isEmpty ∧ c.char? = some ']' then
        let l := l.push (.literal ⟨c.charSpan, ']', false⟩)
        let c := c.step
        if c.atEnd then refuse .classUnclosed (c.since start)
        else .ok ⟨c, .opened s.listing (c.since start) negated :: s.frames, l⟩
      else .ok ⟨c, .opened s.listing (c.since start) negated :: s.frames, l⟩

/-- Reads a name between colons; without one, the bracket opens a class.  The cursor is before the
bracket. -/
def asciiClass? (c : Cursor) : Option (ClassItem × Cursor) :=
  (c.past? "[:").bind fun inside =>
    let negated : Bool := inside.char? = some '^'
    let begin := if negated then inside.next else inside
    let name := begin.rest.takeWhile (· ≠ ':')
    let stop := begin.advance name.length
    (stop.past? ":]").bind fun stop =>
      (AsciiClass.ofName? (String.ofList name)).map fun kind =>
        (.named (stop.since c.place) (.ascii kind) negated, stop)

/-- What is listed, with the operation that waits for it, if one does. -/
def operated (s : ClassState) : ClassItem × List ClassFrame :=
  let right := s.listing.item
  match s.frames with
  | .operand op left :: rest =>
    (.operation ⟨left.span.start, right.span.stop⟩ op left right, rest)
  | frames => (right, frames)

/-- Lets an operation wait for its right side; the cursor is before its two characters. -/
def beginOperation (op : SetOp) (s : ClassState) : ClassState :=
  let (left, frames) := s.operated
  let c := s.cursor.advance 2
  ⟨c, .operand op left :: frames, .empty c⟩

/-! ### Items -/

/-- Reads a character or a sequence behind a backslash. -/
def readAtom (c : Cursor) (x : Char) : Reading (Atom × Cursor) :=
  if x = '\\' then readEscape c else .ok (.literal ⟨c.charSpan, x, false⟩, c.next)

/-- An atom as an item of a class. -/
def itemOf : Atom → Reading ClassItem
  | .literal l => .ok (.literal l)
  | .named span set negated => .ok (.named span set negated)
  | a => refuse .classEscape a.span

/-- An atom as an end of a range. -/
def endOf : Atom → Reading Literal
  | .literal l => .ok l
  | a => refuse .classRangeEnd a.span

/-- Reads an item or a range; the cursor is before its first character `x`. -/
def readItem (s : ClassState) (c : Cursor) (x : Char) : Reading (ClassItem × Cursor) := do
  let (first, c) ← readAtom c x
  let c := c.skip
  match c.char? with
  | none => unclosed s.frames c
  | some y =>
    if y ≠ '-' ∨ c.secondPastBlanks? = some ']' ∨ c.secondPastBlanks? = some '-' then
      return (← itemOf first, c)
    else
      let c := c.step
      match c.char? with
      | none => unclosed s.frames c
      | some z =>
        let (last, c) ← readAtom c z
        let span : Span := ⟨first.span.start, last.span.stop⟩
        let lo ← endOf first
        let hi ← endOf last
        if lo.char ≤ hi.char then return (.range span lo hi, c) else refuse .classRange span

/-! ### The whole class -/

/-- The class is closed, or goes on. -/
abbrev Progress := ClassState ⊕ (ClassItem × Cursor)

/-- Closes the innermost bracket; the cursor is before the closing one. -/
def closeBracket (s : ClassState) : Progress :=
  let (content, frames) := s.operated
  let c := s.cursor.next
  match frames with
  | .opened before opening negated :: rest =>
    let item := .bracket (c.since opening.start) negated content
    if rest.isEmpty then .inr (item, c) else .inl ⟨c, rest, before.push item⟩
  | _ => .inr (content, c)

/-- One item, operation or bracket. -/
def step (s : ClassState) : Reading Progress :=
  let c := s.cursor.skip
  let s := { s with cursor := c }
  match c.char? with
  | none => unclosed s.frames c
  | some x =>
    if x = '[' then
      match if s.frames.isEmpty then none else asciiClass? c with
      | some (item, c) => .ok (.inl { s with cursor := c, listing := s.listing.push item })
      | none => s.openBracket.map .inl
    else if x = ']' then .ok s.closeBracket
    else if x = '&' ∧ c.second? = some '&' then .ok (.inl (s.beginOperation .inter))
    else if x = '-' ∧ c.second? = some '-' then .ok (.inl (s.beginOperation .diff))
    else if x = '~' ∧ c.second? = some '~' then .ok (.inl (s.beginOperation .symmDiff))
    else (s.readItem c x).map fun (item, c) =>
      .inl { s with cursor := c, listing := s.listing.push item }

/-- Takes at most as many steps as there are characters left. -/
def run : List Char → ClassState → Reading (ClassItem × Cursor)
  | [], s => unclosed s.frames s.cursor
  | _ :: left, s =>
    match s.step with
    | .error r => .error r
    | .ok (.inr whole) => .ok whole
    | .ok (.inl s) => run left s

end ClassState

/-- Reads a class; the cursor is before the opening bracket.  Each step reads a character, so that
no class is closed with a step more. -/
def readClass (c : Cursor) : Reading (ClassItem × Cursor) :=
  ClassState.run c.rest ⟨c, [], .empty c⟩

end Offload.Pattern
