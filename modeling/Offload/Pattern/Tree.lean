/-
**Patterns as they are written.**

A pattern is read into a tree that keeps what is written, and where, so that what is found wrong
later can still be shown in the text.

Main definitions:

* `Pattern.Atom` — a single character, a named set of characters or a condition on a place;
* `Pattern.ClassItem` — what stands in a class between brackets;
* `Pattern.Tree` — a pattern; `Tree.span` — where it stands;
* `Tree.tooDeep?` — the first part that is nested deeper than a limit.
-/

import Offload.Pattern.Fault

set_option relaxedAutoImplicit false
set_option autoImplicit false

namespace Offload.Pattern

/-! ### Atoms -/

/-- A character, and whether it is written as a byte: by two hexadecimal digits without braces. -/
structure Literal where
  span : Span
  char : Char
  isByte : Bool
  deriving DecidableEq, Repr

/-- The sets that have a letter behind a backslash. -/
inductive Shorthand where
  | digit
  | space
  | word
  deriving DecidableEq, Repr

/-- The sets that have a name between colons in a class. -/
inductive AsciiClass where
  | alnum
  | alpha
  | ascii
  | blank
  | cntrl
  | digit
  | graph
  | lower
  | print
  | punct
  | space
  | upper
  | word
  | xdigit
  deriving DecidableEq, Repr

namespace AsciiClass

/-- All of them. -/
def all : List AsciiClass :=
  [alnum, alpha, ascii, blank, cntrl, digit, graph, lower, print, punct, space, upper, word, xdigit]

/-- The name of a class. -/
def name : AsciiClass → String
  | alnum => "alnum"
  | alpha => "alpha"
  | ascii => "ascii"
  | blank => "blank"
  | cntrl => "cntrl"
  | digit => "digit"
  | graph => "graph"
  | lower => "lower"
  | print => "print"
  | punct => "punct"
  | space => "space"
  | upper => "upper"
  | word => "word"
  | xdigit => "xdigit"

/-- The class of a name. -/
def ofName? (name : String) : Option AsciiClass := all.find? fun k => k.name == name

theorem ofName?_name (k : AsciiClass) : ofName? k.name = some k := by
  cases k <;> decide

end AsciiClass

/-- A set of characters that has a name. -/
inductive NamedSet where
  | shorthand (kind : Shorthand)
  | ascii (kind : AsciiClass)
  | property (name : List Char)
  deriving DecidableEq, Repr

/-- The places at or near the edge of a word. -/
inductive WordEdge where
  /-- Between a word and what is none, and between what is both or neither. -/
  | boundary
  | noBoundary
  /-- Before a word and not after one, and the other way round. -/
  | start
  | stop
  /-- Not after a word, and not before one. -/
  | startHalf
  | stopHalf
  deriving DecidableEq, Repr

/-- A condition on a place. -/
inductive Anchor where
  | lineStart
  | lineStop
  | textStart
  | textStop
  | word (edge : WordEdge)
  deriving DecidableEq, Repr

/-- What a single character of a pattern, or a sequence behind a backslash, stands for. -/
inductive Atom where
  | literal (l : Literal)
  | anyChar (span : Span)
  | anchor (span : Span) (kind : Anchor)
  | named (span : Span) (set : NamedSet) (negated : Bool)
  deriving DecidableEq, Repr

/-- Where an atom stands. -/
def Atom.span : Atom → Span
  | literal l => l.span
  | anyChar span => span
  | anchor span _ => span
  | named span _ _ => span

/-! ### Classes -/

/-- The operations on two sets. -/
inductive SetOp where
  | inter
  | diff
  | symmDiff
  deriving DecidableEq, Repr

/-- What stands in a class between brackets. -/
inductive ClassItem where
  | empty (span : Span)
  | literal (l : Literal)
  | range (span : Span) (first last : Literal)
  | named (span : Span) (set : NamedSet) (negated : Bool)
  | bracket (span : Span) (negated : Bool) (content : ClassItem)
  | union (span : Span) (items : List ClassItem)
  | operation (span : Span) (op : SetOp) (left right : ClassItem)
  deriving Repr

/-- Where an item stands. -/
def ClassItem.span : ClassItem → Span
  | empty span => span
  | literal l => l.span
  | range span _ _ => span
  | named span _ _ => span
  | bracket span _ _ => span
  | union span _ => span
  | operation span _ _ _ => span

/-! ### Patterns -/

/-- What can be switched on and off in a pattern. -/
inductive Flag where
  | ignoreCase
  | multiLine
  | dotAll
  | lazyFirst
  | unicode
  | crlf
  | ignoreBlanks
  deriving DecidableEq, Repr

namespace Flag

/-- The flag of a letter. -/
def ofLetter? (c : Char) : Option Flag :=
  match c with
  | 'i' => some ignoreCase
  | 'm' => some multiLine
  | 's' => some dotAll
  | 'U' => some lazyFirst
  | 'u' => some unicode
  | 'R' => some crlf
  | 'x' => some ignoreBlanks
  | _ => none

end Flag

/-- What is switched: no flag stands in it twice. -/
abbrev Switches := List (Flag × Bool)

/-- What the switches make of a flag. -/
def Switches.apply (s : Switches) (f : Flag) (before : Bool) : Bool :=
  match s.find? fun x => x.1 = f with
  | some (_, on) => on
  | none => before

/-- A pattern as it is written. -/
inductive Tree where
  | empty (span : Span)
  | atom (a : Atom)
  | set (item : ClassItem)
  | switches (span : Span) (change : Switches)
  /-- A group, which captures what it matches or not, and the switches inside. -/
  | group (span : Span) (captures : Bool) (change : Switches) (body : Tree)
  /-- A part that is repeated; `isLazy` if a question mark stands behind the operator. -/
  | repetition (span : Span) (least : Nat) (most : Option Nat) (isLazy : Bool) (body : Tree)
  | concat (span : Span) (parts : List Tree)
  | alternation (span : Span) (branches : List Tree)
  deriving Repr

namespace Tree

/-- Where a pattern stands. -/
def span : Tree → Span
  | empty span => span
  | atom a => a.span
  | set item => item.span
  | switches span _ => span
  | group span _ _ _ => span
  | repetition span _ _ _ _ => span
  | concat span _ => span
  | alternation span _ => span

/-- Parts one after another: a single part stands for itself. -/
def ofParts (span : Span) : List Tree → Tree
  | [] => empty span
  | [t] => t
  | parts => concat span parts

end Tree

/-! ### Depth -/

/-- The deepest nesting that is allowed. -/
def nestLimit : Nat := 250

/-- The span, if there is no room left for what stands there, and else what is found inside. -/
@[macro_inline]
def within (room : Nat) (span : Span) (inside : Nat → Option Span) : Option Span :=
  match room with
  | 0 => some span
  | room + 1 => inside room

mutual

/-- The first item of a class that is nested deeper than there is room. -/
def ClassItem.tooDeep? (room : Nat) : ClassItem → Option Span
  | .bracket span _ content => within room span fun room => content.tooDeep? room
  | .union span items => within room span fun room => ClassItem.anyTooDeep? room items
  | .operation span _ left right =>
    within room span fun room => (left.tooDeep? room).or (right.tooDeep? room)
  | _ => none

/-- The first of several items that is nested deeper than there is room. -/
def ClassItem.anyTooDeep? (room : Nat) : List ClassItem → Option Span
  | [] => none
  | item :: rest => (item.tooDeep? room).or (ClassItem.anyTooDeep? room rest)

end

mutual

/-- The first part of a pattern that is nested deeper than there is room. -/
def Tree.tooDeep? (room : Nat) : Tree → Option Span
  | .set item => item.tooDeep? room
  | .group span _ _ body => within room span fun room => body.tooDeep? room
  | .repetition span _ _ _ body => within room span fun room => body.tooDeep? room
  | .concat span parts => within room span fun room => Tree.anyTooDeep? room parts
  | .alternation span branches => within room span fun room => Tree.anyTooDeep? room branches
  | _ => none

/-- The first of several patterns that is nested deeper than there is room. -/
def Tree.anyTooDeep? (room : Nat) : List Tree → Option Span
  | [] => none
  | t :: rest => (t.tooDeep? room).or (Tree.anyTooDeep? room rest)

end

end Offload.Pattern
