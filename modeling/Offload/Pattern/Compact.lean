/-
**Patterns written shortly.**

A pattern that is only asked whether it matches may be written in a shorter way: it does not count
what is kept of a match, how often is tried first, and which branch comes first.  Parts that follow
one another and are the same are one part that is repeated.

Main definitions:

* `Pattern.merged` — a part before others, as one with those if it is the same;
* `Pattern.compactList`, `Pattern.compact` — a pattern written shortly.
-/

import Offload.Pattern.Basic

set_option relaxedAutoImplicit false
set_option autoImplicit false

namespace Offload.Pattern

/-- Is the pattern a text or a set of characters? -/
def isLetters : Pattern → Bool
  | text _ => true
  | chars _ _ => true
  | _ => false

/-- The first `n` parts as one with those behind them, if these are the same: a repetition of the
same, or the same once more. -/
def doubled? (n : Nat) (ps : List Pattern) : Option (Pattern × List Pattern) :=
  let block := ps.take n
  let rest := ps.drop n
  if block.all isLetters then none
  else if block.isPrefixOf rest then
    some (times 2 (some 2) false (ofParts block), rest.drop n)
  else
    match rest with
    | times least (some most) _ p :: more =>
      if least = most ∧ p = ofParts block then
        some (times (least + 1) (some (most + 1)) false p, more)
      else none
    | _ => none

/-- A part before others: as one with those, if up to twelve of them are repeated.  What comes out
is looked at again, at most so many times. -/
def merged : Nat → Pattern → List Pattern → List Pattern
  | 0, p, ps => p :: ps
  | again + 1, p, ps =>
    match (List.range 12).findSome? fun n => doubled? (n + 1) (p :: ps) with
    | some (q, rest) => merged again q rest
    | none => p :: ps

/-- A branch before others, unless it is one of the next eight. -/
def besides (p : Pattern) (branches : List Pattern) : List Pattern :=
  if p ∈ branches.take 8 then branches else p :: branches

/-- The parts of a pattern, written shortly, or its branches. -/
def compactList (branching : Bool) : Pattern → List Pattern
  | empty => if branching then [empty] else []
  | text cs => [text cs]
  | chars _ s => [chars true s]
  | look l => [look l]
  | seq p q =>
    let parts := (p.compactList false).foldr (merged 4) (q.compactList false)
    if branching then [ofParts parts] else parts
  | alt p q =>
    let branches := besides (ofParts (p.compactList false)) (q.compactList true)
    if branching then branches else [ofBranches branches]
  | capture _ p => p.compactList branching
  | times least most _ p => [times least most false (ofParts (p.compactList false))]

/-- A pattern written shortly. -/
def compact (p : Pattern) : Pattern := ofParts (p.compactList false)

end Offload.Pattern
