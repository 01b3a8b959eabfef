/-
**What a pattern matches.**

A text is walked through once, character by character, and at each place it is known how far
matches have come that began there or before.  What is known are marks: in front of each letter of
the pattern, which is a character or a set of them, wait those that are to move over it with the
next character.  Conditions and repetitions move marks on without a character.

Main definitions:

* `Pattern.Letters` — words of letters, in front of which marks wait;
* `Pattern.Walk` — a pattern with its marks; `Walk.ofPattern` — without any;
* `Walk.listen`, `Walk.step` — at one place: what has come to the end of a part, and then, as marks
  enter, what waits afterwards;
* `Pattern.isMatch` — is there a match anywhere in a text?
-/

import Offload.Pattern.Compact
import Offload.Pattern.Marks
import Offload.Pattern.Spot

set_option relaxedAutoImplicit false
set_option autoImplicit false

namespace Offload.Pattern

/-! ### Words -/

/-- A word of letters, each of which is any character of a set. -/
abbrev Word := List CharSet

/-- The letters of a pattern that is a text or a set of characters. -/
def letters? : Pattern → Option Word
  | text cs => some (cs.map CharSet.single)
  | chars _ s => some [s]
  | _ => none

/-- The pattern as a word, if it is one. -/
def word? : Pattern → Option Word
  | seq p q => do return (← p.letters?) ++ (← q.word?)
  | p => p.letters?

/-- Words of which there are some copies, one word behind the other, with a block of bits for each
letter. -/
structure Letters where
  copies : Nat
  length : Nat
  /-- A mark at the first copy of the letters with which words begin. -/
  starts : Marks
  /-- Marks at the letters with which words end. -/
  stops : Marks
  /-- For each set the marks at the letters that it is. -/
  places : List (CharSet × Marks)
  /-- The marks in front of letters. -/
  waiting : Marks
  /-- Those of them that the character before this place moves. -/
  hits : Marks

namespace Letters

/-- Copies of words, without a mark. -/
def ofWords (copies : Nat) (words : List Word) : Letters :=
  let letters := words.flatten
  let one := Marks.first copies
  { copies := copies
    length := letters.length
    starts := .ofBlocks copies (words.flatMap fun w => 1 :: List.replicate (w.length - 1) 0)
    stops := .ofBlocks copies (words.flatMap fun w => List.replicate (w.length - 1) 0 ++ [one])
    places := letters.eraseDups.map fun s =>
      (s, .ofBlocks copies (letters.map fun t => if t = s then one else 0))
    waiting := 0
    hits := 0 }

/-- The words at a place: which marks the character before it moves. -/
def listen (spot : Spot) (l : Letters) : Letters :=
  match spot.before with
  | some c =>
    let places := l.places.foldl (fun (m : Marks) x => if x.1.mem c then m ||| x.2 else m) 0
    { l with hits := l.waiting &&& places }
  | none => { l with hits := 0 }

/-- The marks that come to the end of a word. -/
def arrived (l : Letters) : Marks :=
  Marks.joined l.copies (l.length.log2 + 1) l.length (l.hits &&& l.stops)

/-- The words with the marks that wait next. -/
def next (l : Letters) (entering : Marks) : Letters :=
  let moved := l.hits ^^^ (l.hits &&& l.stops)
  { l with waiting := entering * l.starts ||| moved <<< l.copies }

end Letters

/-! ### Patterns with marks -/

/-- What is known of a part at a place: the marks that have come to its end, and whether a mark
goes through it without a character. -/
structure Heard where
  arrived : Marks
  free : Bool
  deriving DecidableEq, Repr

/-- A pattern with its marks; of what is put together it is known whether any marks wait in it, and
of the part of a repetition, if so, what is known at the place. -/
inductive Walk where
  | empty
  | look (l : Look)
  | words (l : Letters)
  | seq (busy : Bool) (p q : Walk)
  | alt (busy : Bool) (p q : Walk)
  | times (busy : Bool) (r : Rounds) (heard : Heard) (p : Walk)

namespace Walk

/-- Copies of words, and of a pattern behind them. -/
def behind (copies : Nat) (ahead : Word) (p : Walk) : Walk :=
  if ahead.isEmpty then p else seq false (words (.ofWords copies [ahead])) p

/-- Copies of words, and of a pattern beside them. -/
def beside (copies : Nat) (others : List Word) (p : Walk) : Walk :=
  if others.isEmpty then p else alt false (words (.ofWords copies others)) p

/-- Copies of a pattern, without a mark: of one that stands behind a word, which is given from its
end, or, in a choice, beside some words. -/
def ofPattern (copies : Nat) (ahead : Word) (others : List Word) : Pattern → Walk
  | .empty => beside copies others <| behind copies ahead.reverse empty
  | .text cs =>
    beside copies others <|
      words (.ofWords copies [ahead.reverse ++ cs.map CharSet.single])
  | .chars _ s => beside copies others <| words (.ofWords copies [ahead.reverse ++ [s]])
  | .look l => beside copies others <| behind copies ahead.reverse (look l)
  | .seq p q =>
    beside copies others <|
      match p.letters? with
      | some next => ofPattern copies (next.reverse ++ ahead) [] q
      | none =>
        behind copies ahead.reverse
          (seq false (ofPattern copies [] [] p) (ofPattern copies [] [] q))
  | .alt p q =>
    behind copies ahead.reverse <|
      match p.word? with
      | some word => ofPattern copies [] (word :: others) q
      | none => alt false (ofPattern copies [] [] p) (ofPattern copies [] others q)
  | .capture _ p => beside copies others <| behind copies ahead.reverse (ofPattern copies [] [] p)
  | .times least most _ p =>
    let r := Rounds.ofCounts copies least most
    beside copies others <| behind copies ahead.reverse
      (times false r ⟨0, false⟩ (ofPattern (copies * r.top) [] [] p))

/-- Do any marks wait? -/
def busy : Walk → Bool
  | empty => false
  | look _ => false
  | words l => l.waiting != 0
  | seq busy _ _ => busy
  | alt busy _ _ => busy
  | times busy _ _ _ => busy

/-- Does a mark go through without a character? -/
def free (spot : Spot) : Walk → Bool
  | empty => true
  | look l => spot.satisfies l
  | words _ => false
  | seq _ p q => p.free spot && q.free spot
  | alt _ p q => p.free spot || q.free spot
  | times _ r _ p => r.least = 0 || p.free spot

/-- The pattern at a place, before any marks enter, and what is known of it there. -/
def listen (spot : Spot) : Walk → Walk × Heard
  | empty => (empty, ⟨0, true⟩)
  | look l => (look l, ⟨0, spot.satisfies l⟩)
  | words l =>
    if l.waiting = 0 then (words { l with hits := 0 }, ⟨0, false⟩)
    else
      let l := l.listen spot
      (words l, ⟨l.arrived, false⟩)
  | seq busy p q =>
    if busy then
      let (p, x) := p.listen spot
      if q.busy then
        let (q, y) := q.listen spot
        (seq busy p q, ⟨if y.free then x.arrived ||| y.arrived else y.arrived, x.free && y.free⟩)
      else
        let free := (x.arrived != 0 || x.free) && q.free spot
        (seq busy p q, ⟨if free then x.arrived else 0, x.free && free⟩)
    else (seq busy p q, ⟨0, free spot (seq busy p q)⟩)
  | alt busy p q =>
    if busy then
      let (p, x) := p.listen spot
      let (q, y) := q.listen spot
      (alt busy p q, ⟨x.arrived ||| y.arrived, x.free || y.free⟩)
    else (alt busy p q, ⟨0, free spot (alt busy p q)⟩)
  | times busy r heard p =>
    if busy then
      let (p, x) := p.listen spot
      (times busy r x p, ⟨(r.turn 0 x.arrived x.free).2, r.least = 0 || x.free⟩)
    else (times busy r heard p, ⟨0, free spot (times busy r heard p)⟩)

/-- The pattern at a place where marks enter, with those that wait next, and what leaves it. -/
def step (spot : Spot) : Walk → Marks → Walk × Marks
  | empty, m => (empty, m)
  | look l, m => (look l, if spot.satisfies l then m else 0)
  | words l, m => if l.waiting = 0 then (words (l.next m), 0) else (words (l.next m), l.arrived)
  | seq busy p q, m =>
    if m != 0 || busy then
      let (p, m) := p.step spot m
      let (q, m) := q.step spot m
      (seq (p.busy || q.busy) p q, m)
    else (seq busy p q, 0)
  | alt busy p q, m =>
    if m != 0 || busy then
      let (p, m₁) := p.step spot m
      let (q, m₂) := q.step spot m
      (alt (p.busy || q.busy) p q, m₁ ||| m₂)
    else (alt busy p q, 0)
  | times busy r heard p, m =>
    if m != 0 || busy then
      let heard := if busy then heard else ⟨0, p.free spot⟩
      let (entering, leaving) := r.turn m heard.arrived heard.free
      let (p, _) := p.step spot entering
      (times p.busy r heard p, leaving)
    else (times busy r heard p, 0)

/-- Does a mark leave the pattern anywhere, when one enters at each place? -/
def search (w : Walk) (before : Option Char) : List Char → Bool
  | [] =>
    let spot : Spot := ⟨before, none⟩
    ((w.listen spot).1.step spot 1).2 != 0
  | c :: rest =>
    let spot : Spot := ⟨before, some c⟩
    let (w, m) := (w.listen spot).1.step spot 1
    if m != 0 then true else search w (some c) rest

end Walk

/-- Is there a match anywhere in a text? -/
def isMatch (p : Pattern) (s : String) : Bool :=
  (Walk.ofPattern 1 [] [] p.compact).search none s.toList

end Offload.Pattern
