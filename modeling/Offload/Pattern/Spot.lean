/-
**Places in a text.**

A place stands between two characters, or at an end of a text, and what holds at a place depends on
nothing but these two characters.

Main definitions:

* `Pattern.Spot` — a place in a text;
* `Spot.satisfies` — does a condition hold at a place?
-/

import Offload.Pattern.Basic

set_option relaxedAutoImplicit false
set_option autoImplicit false

namespace Offload.Pattern

/-- A place in a text: the characters before and after it. -/
structure Spot where
  before : Option Char
  after : Option Char
  deriving DecidableEq, Repr

namespace Spot

/-- Is there a character of a word before the place, or after it? -/
def inWord (c : Option Char) : Bool := c.any fun c => c.isAlphanum || c = '_'

/-- Is the place at this edge of a word? -/
def atEdge (s : Spot) : WordEdge → Bool
  | .boundary => inWord s.before != inWord s.after
  | .noBoundary => inWord s.before == inWord s.after
  | .start => !inWord s.before && inWord s.after
  | .stop => inWord s.before && !inWord s.after
  | .startHalf => !inWord s.before
  | .stopHalf => !inWord s.after

/-- Does a line start at the place?  No line starts or ends inside of a carriage return and a line
feed. -/
def atLineStart (crlf : Bool) (s : Spot) : Bool :=
  s.before = none || s.before = some '\n' ||
    (crlf && s.before = some '\r' && s.after ≠ some '\n')

/-- Does a line end at the place? -/
def atLineStop (crlf : Bool) (s : Spot) : Bool :=
  s.after = none ||
    if crlf then s.after = some '\r' || (s.after = some '\n' && s.before ≠ some '\r')
    else s.after = some '\n'

/-- Does the condition hold at the place? -/
def satisfies (s : Spot) : Look → Bool
  | .textStart => s.before = none
  | .textStop => s.after = none
  | .lineStart crlf => s.atLineStart crlf
  | .lineStop crlf => s.atLineStop crlf
  | .word edge _ => s.atEdge edge

end Spot

end Offload.Pattern
