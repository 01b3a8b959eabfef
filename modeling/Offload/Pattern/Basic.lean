/-
**Patterns.**

A pattern says what a piece of text looks like.  Patterns are put together in such a way that the
same is written alike as far as that is easy: parts and branches are not nested, characters one
after another are one text, and a choice of characters is a set of them.

Main definitions:

* `Pattern` — a pattern; `Pattern.Look` — a condition on a place;
* `Pattern.ofChar`, `Pattern.ofSet` — a character, one of a set;
* `Pattern.append`, `Pattern.choice`, `Pattern.repeated` — parts one after another, one of several
  branches, a part several times;
* `Pattern.shortest?`, `Pattern.onlyEmpty` — how long a text is that matches;
* `Pattern.startsAtStart`, `Pattern.stopsAtStop` — is a match bound to an end of the text?

Main results:

* `Pattern.onlyEmpty_ending` — how a pattern ends tells whether it matches only the empty text.
-/

import Offload.Pattern.CharSet

set_option relaxedAutoImplicit false
set_option autoImplicit false

namespace Offload

/-- A condition on a place. -/
inductive Pattern.Look where
  | textStart
  | textStop
  /-- At the start or the end of a line; `crlf` if a carriage return ends a line too. -/
  | lineStart (crlf : Bool)
  | lineStop (crlf : Bool)
  /-- At the edge of a word; `unicode` if there is more to words than ASCII. -/
  | word (edge : Pattern.WordEdge) (unicode : Bool)
  deriving DecidableEq, Repr

/-- A pattern. -/
inductive Pattern where
  | empty
  /-- These characters, of which there is at least one. -/
  | text (cs : List Char)
  /-- One character of a set; `unicode` if the set may hold more than ASCII. -/
  | chars (unicode : Bool) (s : Pattern.CharSet)
  | look (l : Pattern.Look)
  /-- A part and those that follow it. -/
  | seq (p q : Pattern)
  /-- A branch and those that are tried after it. -/
  | alt (p q : Pattern)
  /-- The group that begins at a place of the pattern's text; what it matches is kept. -/
  | capture (start : Nat) (p : Pattern)
  /-- At least, and at most if there is a limit, so many times; as often as possible, or as seldom
  as possible. -/
  | times (least : Nat) (most : Option Nat) (isLazy : Bool) (p : Pattern)
  deriving DecidableEq, Repr

namespace Pattern

/-! ### Characters -/

/-- A character. -/
def ofChar (c : Char) : Pattern := text [c]

/-- One character of a set: of a set of one, that character. -/
def ofSet (unicode : Bool) (s : CharSet) : Pattern :=
  match s.single? with
  | some c => ofChar c
  | none => chars (unicode && s != .empty) s

/-! ### Parts -/

/-- A part before others. -/
def cons : Pattern → Pattern → Pattern
  | empty, q => q
  | p, empty => p
  | text cs, text ds => text (cs ++ ds)
  | text cs, seq (text ds) q => seq (text (cs ++ ds)) q
  | p, q => seq p q

/-- Parts one after another. -/
def append : Pattern → Pattern → Pattern
  | seq p q, r => cons p (append q r)
  | p, r => cons p r

/-- The parts of a pattern. -/
def parts : Pattern → List Pattern
  | seq p q => p :: q.parts
  | p => [p]

/-- Parts one after another. -/
def ofParts (ps : List Pattern) : Pattern := ps.foldr append empty

/-! ### Branches -/

/-- The branches of a pattern. -/
def branches : Pattern → List Pattern
  | alt p q => p :: q.branches
  | p => [p]

/-- One of several branches. -/
def ofBranches : List Pattern → Pattern
  | [] => chars false .empty
  | [p] => p
  | p :: rest => alt p (ofBranches rest)

/-- The character that the pattern is, if it is one. -/
def char? : Pattern → Option Char
  | text [c] => some c
  | _ => none

/-- The set whose characters match, if the pattern is one. -/
def set? : Pattern → Option CharSet
  | chars _ s => some s
  | _ => none

/-- The parts in front that are the same in two lists. -/
def common : List Pattern → List Pattern → List Pattern
  | p :: ps, q :: qs => if p = q then p :: common ps qs else []
  | _, _ => []

/-- The parts in front that several branches have in common; a branch of one part has none. -/
def commonParts (branches : List (List Pattern)) : List Pattern :=
  match branches with
  | [] | [_] => []
  | first :: rest =>
    if branches.all fun ps => 1 < ps.length then rest.foldl common first else []

/-- One of several branches, none of which is a choice itself: of single characters a set, and of
sets their union. -/
def choiceOf (branches : List Pattern) : Pattern :=
  match branches with
  | [p] => p
  | _ =>
    match branches.mapM char?, branches.mapM set? with
    | some cs, _ => ofSet true (.ofList (cs.map fun c => (c, c)))
    | none, some sets => ofSet true (sets.foldr .union .empty)
    | none, none => ofBranches branches

/-- One of several branches.  Parts in front that all of them share are tried only once. -/
def choice (branches : List Pattern) : Pattern :=
  let branches := branches.flatMap Pattern.branches
  let shared := commonParts (branches.map parts)
  if shared.isEmpty then choiceOf branches
  else
    let others := branches.map fun p => ofParts (p.parts.drop shared.length)
    append (ofParts shared) (choiceOf (others.flatMap Pattern.branches))

/-! ### Lengths -/

/-- Does a pattern match nothing but the empty text? -/
def onlyEmpty : Pattern → Bool
  | empty => true
  | text _ => false
  | chars _ _ => false
  | look _ => true
  | seq p q => p.onlyEmpty && q.onlyEmpty
  | alt p q => p.onlyEmpty && q.onlyEmpty
  | capture _ p => p.onlyEmpty
  | times _ most _ p => p.onlyEmpty || most = some 0

/-- The number of characters in the shortest text that matches, as far as that is known: of what
is built from a set of no character it is not. -/
def shortest? : Pattern → Option Nat
  | empty => some 0
  | text cs => some cs.length
  | chars _ s => if s = .empty then none else some 1
  | look _ => some 0
  | seq p q => do return (← p.shortest?) + (← q.shortest?)
  | alt p q => do return min (← p.shortest?) (← q.shortest?)
  | capture _ p => p.shortest?
  | times least _ _ p => p.shortest?.map (least * ·)

/-- A pattern so many times: what matches only the empty text need not be repeated, and nothing is
left of what is repeated no time at all. -/
def repeated (least : Nat) (most : Option Nat) (isLazy : Bool) (p : Pattern) : Pattern :=
  let (least, most) : Nat × Option Nat :=
    if p.onlyEmpty then (min least 1, some (min (most.getD 1) 1)) else (least, most)
  if least = 0 ∧ most = some 0 then empty
  else if least = 1 ∧ most = some 1 then p
  else times least most isLazy p

/-! ### Ends of the text -/

/-- Can a pattern match only at the start of the text? -/
def startsAtStart : Pattern → Bool
  | look l => l = .textStart
  | seq p q => p.startsAtStart || (p.onlyEmpty && q.startsAtStart)
  | alt p q => p.startsAtStart && q.startsAtStart
  | capture _ p => p.startsAtStart
  | times least _ _ p => 0 < least && p.startsAtStart
  | _ => false

/-- How a pattern ends: can it match only at the end of the text, and does it match nothing but
the empty text? -/
structure Ending where
  bound : Bool
  onlyEmpty : Bool
  deriving DecidableEq, Repr

/-- How a pattern ends.  It is told in one go, because of many parts the first one may be bound if
all the others match only the empty text. -/
def ending : Pattern → Ending
  | empty => ⟨false, true⟩
  | text _ => ⟨false, false⟩
  | chars _ _ => ⟨false, false⟩
  | look l => ⟨l = .textStop, true⟩
  | seq p q =>
    let ahead := p.ending
    let behind := q.ending
    ⟨behind.bound || (behind.onlyEmpty && ahead.bound), ahead.onlyEmpty && behind.onlyEmpty⟩
  | alt p q =>
    let one := p.ending
    let other := q.ending
    ⟨one.bound && other.bound, one.onlyEmpty && other.onlyEmpty⟩
  | capture _ p => p.ending
  | times least most _ p =>
    let part := p.ending
    ⟨0 < least && part.bound, part.onlyEmpty || most = some 0⟩

@[simp] theorem onlyEmpty_ending (p : Pattern) : p.ending.onlyEmpty = p.onlyEmpty := by
  induction p <;> simp_all [ending, onlyEmpty]

/-- Can a pattern match only at the end of the text? -/
def stopsAtStop (p : Pattern) : Bool := p.ending.bound

end Pattern

end Offload
