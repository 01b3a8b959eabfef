/-
**What opens a group.**

A group captures what it matches, under a name if it has one, or only holds its parts together and
may then switch flags for them.  Flags that are closed at once are no group: they are switched for
what follows.

Main definitions:

* `Pattern.readName` — the name of a group;
* `Pattern.readSwitches` — flags, each at most once, and what follows a hyphen switched off;
* `Pattern.Opening`, `Pattern.readOpening` — what opens a group.
-/

import Offload.Pattern.Tree
import Offload.Text.Letters

set_option relaxedAutoImplicit false
set_option autoImplicit false

namespace Offload.Pattern

/-! ### Names -/

/-- May the character stand in a name, or at its beginning? -/
def isNameChar (first : Bool) (c : Char) : Bool :=
  c = '_' || Text.isLetter c ||
    (!first && (c = '.' || c = '[' || c = ']' || Text.isNumeral c))

/-- The names that were read, and where. -/
abbrev Names := List (List Char × Span)

/-- The characters of a name up to the closing angle bracket. -/
def nameChars (first : Bool) (c : Cursor) : List Char → Reading (List Char × Cursor)
  | [] => refuse .nameUnclosed c.here
  | x :: rest =>
    if x = '>' then .ok ([], c)
    else if isNameChar first x then
      (nameChars false c.next rest).map fun (more, stop) => (x :: more, stop)
    else refuse .nameCharacter c.charSpan

/-- Reads a name, and the angle bracket behind it; the cursor is before its first character. -/
def readName (names : Names) (c : Cursor) : Reading (Names × Cursor) :=
  match nameChars true c c.rest with
  | .error r => .error r
  | .ok (name, stop) =>
    let span := stop.since c.place
    if name.isEmpty then refuse .nameEmpty c.here
    else
      match names.find? fun n => n.1 = name with
      | some (_, before) => refuseSecond .nameTwice span before
      | none => .ok ((name, span) :: names, stop.next)

/-! ### Flags -/

/-- Flags so far: each with its span and whether it is switched on, the last one first; and where
the hyphen stands, if there is one. -/
structure FlagList where
  flags : List (Flag × Bool × Span)
  hyphen : Option Span

/-- Where a flag was read. -/
def FlagList.spanOf? (l : FlagList) (f : Flag) : Option Span :=
  (l.flags.find? fun x => x.1 = f).map fun x => x.2.2

/-- The flags as switches. -/
def FlagList.switches (l : FlagList) : Switches := l.flags.reverse.map fun (f, on, _) => (f, on)

/-- One flag more. -/
def FlagList.push (l : FlagList) (x : Char) (span : Span) : Reading FlagList :=
  if x = '-' then
    match l.hyphen with
    | some before => refuseSecond .flagSecondNegation span before
    | none => .ok { l with hyphen := some span }
  else
    match Flag.ofLetter? x with
    | none => refuse .flagUnknown span
    | some f =>
      match l.spanOf? f with
      | some before => refuseSecond .flagTwice span before
      | none => .ok { l with flags := (f, l.hyphen.isNone, span) :: l.flags }

/-- Reads flags up to a colon or a closing parenthesis, before which the cursor ends.  A hyphen
must not come last; `dangling` is where it stands if it was read last. -/
def readFlags (l : FlagList) (dangling : Option Span) (c : Cursor) :
    List Char → Reading (FlagList × Cursor)
  | [] => refuse .flagAtEnd c.here
  | x :: rest =>
    if x = ':' ∨ x = ')' then
      match dangling with
      | some span => refuse .flagDanglingNegation span
      | none => .ok (l, c)
    else
      match l.push x c.charSpan with
      | .error r => .error r
      | .ok l => readFlags l (if x = '-' then some c.charSpan else none) c.next rest

/-- Reads switches; the cursor ends before what closes them. -/
def readSwitches (c : Cursor) : Reading (FlagList × Cursor) := readFlags ⟨[], none⟩ none c c.rest

/-! ### Openings -/

/-- What an opening parenthesis, and what belongs to it, stands for. -/
inductive Opening where
  /-- Switches for what follows. -/
  | switches (span : Span) (change : Switches)
  /-- A group, which captures what it matches or not, and the switches inside. -/
  | group (span : Span) (captures : Bool) (change : Switches)

/-- The sequences after a parenthesis that look at what is before or behind a place. -/
def lookArounds : List String := ["?=", "?!", "?<=", "?<!"]

/-- Reads switches after a parenthesis and a question mark, and what closes them.  The cursor is
behind the question mark, `mark` at it, and `opening` is the parenthesis. -/
def readChange (opening mark : Span) (c : Cursor) : Reading (Opening × Cursor) :=
  if c.atEnd then refuse .groupUnclosed opening
  else
    match readSwitches c with
    | .error r => .error r
    | .ok (l, close) =>
      let stop := close.next
      if close.char? = some ')' then
        if l.flags.isEmpty then refuse .nothingToRepeat mark
        else .ok (.switches (stop.since opening.start) l.switches, stop)
      else .ok (.group opening false l.switches, stop)

/-- Reads what opens a group; the cursor is before the parenthesis. -/
def readOpening (names : Names) (c : Cursor) : Reading (Opening × Names × Cursor) :=
  let opening := c.charSpan
  let inside := c.step
  match lookArounds.findSome? fun s => inside.past? s with
  | some c => refuse .lookAround (c.since opening.start)
  | none =>
    match (inside.past? "?P<").or (inside.past? "?<") with
    | some c => (readName names c).map fun (names, c) => (.group opening true [], names, c)
    | none =>
      match inside.past? "?" with
      | some c => (readChange opening inside.here c).map fun (o, c) => (o, names, c)
      | none => .ok (.group opening true [], names, inside)

end Offload.Pattern
