/-
**Marks on the copies of a part.**

A part that is repeated is the same for each time, so that it is enough to have it once and to know
for which of the times something holds.  The marks for all of them are the bits of one number: a
block of bits for each time, and in it as many bits as there are copies of the whole repetition.

Main definitions:

* `Marks.first` — marks on the first copies;
* `Marks.ofBlocks` — marks put together from blocks;
* `Marks.carried` — marks carried on from each block to those behind it;
* `Marks.joined` — the marks of several blocks in one;
* `Pattern.Rounds` — how often a part is repeated; `Rounds.turn` — which copies of it are entered,
  and what leaves the repetition.
-/

set_option relaxedAutoImplicit false
set_option autoImplicit false

namespace Offload.Pattern

/-- Marks on copies: the bits of a number. -/
abbrev Marks := Nat

namespace Marks

/-- Marks on the first `n` copies. -/
def first (n : Nat) : Marks := 1 <<< n - 1

/-- Each block of a width and the one behind it as one block. -/
def paired (width : Nat) : List Marks → List Marks
  | m :: n :: rest => (m ||| n <<< width) :: paired width rest
  | rest => rest

/-- Blocks of a width put together; their number is halved in each of so many steps. -/
def together : Nat → Nat → List Marks → Marks
  | _, _, [] => 0
  | _, _, [m] => m
  | 0, _, m :: _ => m
  | steps + 1, width, blocks => together steps (2 * width) (paired width blocks)

/-- Marks put together from blocks of a width. -/
def ofBlocks (width : Nat) (blocks : List Marks) : Marks :=
  together (blocks.length.log2 + 1) width blocks

/-- The marks of each block carried on to those behind it, `stride` bits from one to the next, as
far as there are any; the reach is doubled in each of so many steps. -/
def carried (all : Marks) : Nat → Nat → Marks → Marks
  | 0, _, m => m
  | steps + 1, stride, m =>
    let next := (m ||| m <<< stride) &&& all
    if next = m then m else carried all steps (2 * stride) next

/-- The marks of so many blocks of a width in one block; their number is halved in each of so many
steps. -/
def joined (width : Nat) : Nat → Nat → Marks → Marks
  | 0, _, m => m
  | steps + 1, blocks, m =>
    if m = 0 ∨ blocks ≤ 1 then m
    else
      let half := (blocks + 1) / 2
      joined width steps half ((m &&& first (width * half)) ||| m >>> (width * half))

end Marks

/-- How often a part is repeated: at least `least` times, and at most `top` times or, if it is
repeated endlessly, any number of times, of which those after the `top`-th are the same as that
one.  There are `copies` of the repetition, and `top` times as many of the part. -/
structure Rounds where
  copies : Nat
  least : Nat
  top : Nat
  endless : Bool
  deriving DecidableEq, Repr

namespace Rounds

/-- The rounds of a repetition of which there are some copies. -/
def ofCounts (copies least : Nat) (most : Option Nat) : Rounds :=
  match most with
  | some most => ⟨copies, least, most, false⟩
  | none => ⟨copies, least, max least 1, true⟩

/-- The marks that enter a part, and those that leave its repetition, when some enter the
repetition and others arrive at the end of the part; `free` if a round may be made without a
character. -/
def turn (r : Rounds) (entering arrived : Marks) (free : Bool) : Marks × Marks :=
  let steps := r.top.log2 + 1
  let width := r.copies * r.top
  let moved := arrived <<< r.copies
  if r.endless then
    let beyond := moved >>> width
    let last := r.copies * (r.top - 1)
    let inside := entering ||| (moved &&& Marks.first width) ||| beyond <<< last
    let inside := if free then Marks.carried (Marks.first width) steps r.copies inside else inside
    let leaving := if r.least = 0 then inside else if free then inside >>> last else 0
    (inside, beyond ||| leaving)
  else
    let all := Marks.first (width + r.copies)
    let reached := entering ||| moved
    let reached := if free then Marks.carried all steps r.copies reached else reached
    (reached &&& Marks.first width,
      Marks.joined r.copies steps (r.top + 1 - r.least) (reached >>> (r.copies * r.least)))

end Rounds

end Offload.Pattern
