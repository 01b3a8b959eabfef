/-
**How much room a pattern takes up.**

A text is searched by an automaton that reads it byte by byte.  Here an automaton is built only as
far as to know how large it gets: what is repeated is built once for each time, a set of characters
beyond ASCII is built from ranges of bytes, and of the states for these some are used again.

Main definitions:

* `Pattern.Automaton` — the size of an automaton; `Automaton.bytes` — the room it takes up;
* `Pattern.StateTable` — the states that may be used again;
* `Pattern.Direction` — an automaton may read a text from either end;
* `Pattern.build`, `Pattern.automaton` — the automaton of a pattern.
-/

import Offload.Pattern.Basic
import Offload.Pattern.ByteRange

set_option relaxedAutoImplicit false
set_option autoImplicit false

namespace Offload.Pattern

/-! ### Sizes -/

/-- The room that there is for an automaton, in bytes. -/
def room : Nat := 10485760

/-- How many states an automaton has, and how many bytes their transitions need besides. -/
structure Automaton where
  states : Nat
  transitions : Nat
  deriving DecidableEq, Repr

namespace Automaton

/-- The automaton without a state. -/
def empty : Automaton := ⟨0, 0⟩

/-- The room that an automaton takes up, in bytes. -/
def bytes (a : Automaton) : Nat := 32 * a.states + a.transitions

/-- Is there room for an automaton? -/
def fits (a : Automaton) : Bool := a.bytes ≤ room

/-- An automaton with some states more. -/
def add (n : Nat) (a : Automaton) : Automaton := { a with states := a.states + n }

/-- An automaton with a state more, from which so many ranges of bytes lead on. -/
def addRanges (n : Nat) (a : Automaton) : Automaton := ⟨a.states + 1, a.transitions + 8 * n⟩

/-- An automaton with a state more, from which one of so many ways may be taken. -/
def addFork (n : Nat) (a : Automaton) : Automaton := ⟨a.states + 1, a.transitions + 4 * n⟩

/-- An automaton with another branch of a choice, behind `before` others.  Where it is the second
one, a state is added in which the choice is made, and one in which the branches meet. -/
def addBranch (before : Nat) (a : Automaton) : Automaton :=
  let a := { a with transitions := a.transitions + 4 }
  if before = 1 then a.add 2 else a

/-- The automaton after so many rounds, of which none is made when there is no more room. -/
def rounds : Nat → (Automaton → Automaton) → Automaton → Automaton
  | 0, _, a => a
  | n + 1, round, a => if a.fits then rounds n round (round a) else a

end Automaton

/-! ### States that are used again -/

/-- A table of states: the state of a key stands at a place that depends on the key, and takes it
from one that stood there before. -/
structure StateTable where
  places : Nat
  /-- The place, the key and the number of each state, the last one first. -/
  entries : List (Nat × List Nat × Nat)

namespace StateTable

/-- The place of a key. -/
def place (t : StateTable) (key : List Nat) : Nat :=
  let mixed := key.foldl (fun (h : UInt64) n => (h ^^^ n.toUInt64) * 0x100000001b3)
    0xcbf29ce484222325
  mixed.toNat % t.places

/-- The state of a key, if it still stands at its place. -/
def find? (t : StateTable) (key : List Nat) : Option Nat :=
  let place := t.place key
  match t.entries.find? fun e => e.1 = place with
  | some (_, other, state) => if other = key then some state else none
  | none => none

/-- The table with the state of a key. -/
def insert (t : StateTable) (key : List Nat) (state : Nat) : StateTable :=
  { t with entries := (t.place key, key, state) :: t.entries }

end StateTable

/-- An automaton that is built, and the table of its states. -/
structure Shared where
  automaton : Automaton
  table : StateTable

/-- The number of the state of a key, which is built if it does not stand in the table. -/
def Shared.state (s : Shared) (key : List Nat) (built : Automaton → Automaton) : Nat × Shared :=
  match s.table.find? key with
  | some state => (state, s)
  | none =>
    let state := s.automaton.states
    (state, ⟨built s.automaton, s.table.insert key state⟩)

/-! ### Sets of characters -/

/-- Sequences grouped by what they begin with, where that is the same in some that follow one
another: what they begin with, and what follows. -/
def groups {α : Type} [DecidableEq α] : List (List α) → List (α × List (List α))
  | [] => []
  | [] :: rest => groups rest
  | (x :: xs) :: rest =>
    match groups rest with
    | (y, tails) :: more =>
      if x = y then (y, xs :: tails) :: more else (x, [xs]) :: (y, tails) :: more
    | [] => [(x, [xs])]

/-- The state that reads one of several sequences forwards up to the state `target`; none of them
is longer than `depth`. -/
def forwardState (target : Nat) : Nat → List (List ByteRange) → Shared → Nat × Shared
  | 0, _, s => (target, s)
  | depth + 1, sequences, s =>
    let (key, s) := (groups sequences).foldl (fun (key, s) (r, tails) =>
      let (next, s) := if tails.all List.isEmpty then (target, s)
        else forwardState target depth tails s
      (key ++ [r.first, r.last, next], s)) ([], s)
    s.state key (Automaton.addRanges (key.length / 3))

/-- The state that reads a sequence backwards up to the state `target`. -/
def backwardState (target : Nat) (sequence : List ByteRange) (s : Shared) : Shared :=
  (sequence.foldl (fun (next, s) r => s.state [next, r.first, r.last] (Automaton.add 1))
    (target, s)).2

/-- From which end an automaton reads a text. -/
inductive Direction where
  | forwards
  | backwards
  deriving DecidableEq, Repr

namespace Automaton

/-- The automaton with a set of characters. -/
def addSet (d : Direction) (s : CharSet) (a : Automaton) : Automaton :=
  if s.isAscii then (a.add 1).addRanges s.ranges.length
  else
    let sequences := s.byteRanges
    match d with
    | .forwards => (forwardState a.states 4 sequences ⟨a.add 1, 10000, []⟩).2.automaton
    | .backwards =>
      let forked := a.addFork sequences.length
      (sequences.foldl (fun s sequence => backwardState forked.states sequence s)
        ⟨forked.add 1, 1000, []⟩).automaton

end Automaton

/-! ### Words -/

/-- The words up to each empty one. -/
def splitAtEmpty {α : Type} : List (List α) → List (List (List α))
  | [] => [[]]
  | [] :: rest => [] :: splitAtEmpty rest
  | word :: rest =>
    match splitAtEmpty rest with
    | [] => [[word]]
    | first :: more => (word :: first) :: more

/-- Words grouped by what they begin with. -/
def firstLetters {α : Type} [DecidableEq α] (words : List (List α)) : List (List (List α)) :=
  (words.filterMap List.head?).eraseDups.map fun x =>
    words.filterMap fun word => if word.head? = some x then some word.tail else none

/-- The automaton with a state for each beginning of a word that is not a whole one; none of the
words is longer than `depth`.  Words that stand on different sides of a word which ends here are
kept apart. -/
def Automaton.addBeginnings : Nat → List (List UInt8) → Automaton → Automaton
  | 0, _, a => a
  | depth + 1, words, a =>
    if words.all List.isEmpty then a
    else
      let ended := if words.head?.any List.isEmpty then 1 else 0
      let sections := splitAtEmpty (words.dropWhile List.isEmpty)
      let letters := (sections.filter fun s => !s.isEmpty).map firstLetters
      let a := letters.foldl (fun a ways =>
        let a := ways.foldl (fun a tails => addBeginnings depth tails a) a
        if ways.length = 1 then a.add 1 else a.addRanges ways.length) a
      a.addFork (letters.length + ended + (sections.length - 1))

/-- The automaton with a choice of words. -/
def Automaton.addWords (words : List (List UInt8)) (a : Automaton) : Automaton :=
  addBeginnings ((words.map List.length).foldr max 0) words (a.add 1)

/-! ### Patterns -/

/-- The bytes of a text. -/
def textBytes (cs : List Char) : List UInt8 := cs.flatMap String.utf8EncodeChar

/-- The texts of which a pattern is a choice, if it is one. -/
def words? : Pattern → Option (List (List Char))
  | text cs => some [cs]
  | alt (text cs) q => q.words?.map (cs :: ·)
  | _ => none

/-- The automaton with a pattern, which is a branch of a choice behind `before` others, or none if
there are none before it. -/
def build (d : Direction) : Pattern → Nat → Automaton → Automaton
  | empty, before, a => close before (a.add 1)
  | text cs, before, a => close before (a.add (textBytes cs).length)
  | chars _ s, before, a => close before (a.addSet d s)
  | look _, before, a => close before (a.add 1)
  | seq p q, before, a =>
    close before <| match d with
      | .forwards => build d q 0 (build d p 0 a)
      | .backwards => build d p 0 (build d q 0 a)
  | alt p q, before, a =>
    match before, (alt p q).words? with
    | 0, some words =>
      let words := words.map textBytes
      a.addWords (if d = .forwards then words else words.map List.reverse)
    | _, _ => build d q (before + 1) ((build d p 0 a).addBranch before)
  | capture _ p, before, a =>
    close before <| match d with
      | .forwards => (build d p 0 (a.add 1)).add 1
      | .backwards => build d p 0 a
  | times least most _ p, before, a =>
    let copy := build d p 0
    close before <| match least, most with
      | 0, some 1 => (copy (a.addFork 2)).add 1
      | 0, none =>
        if p.shortest?.any fun n => 0 < n then copy (a.addFork 2)
        else (((copy a).addFork 2).addFork 2).add 1
      | _, none => (Automaton.rounds least copy a).addFork 2
      | _, some most =>
        if least = most then Automaton.rounds least copy a
        else
          let a := if least = 0 then a.add 1 else Automaton.rounds least copy a
          Automaton.rounds (most - least) (fun a => copy (a.addFork 2)) (a.add 1)
where
  /-- What a branch adds to a choice. -/
  close (before : Nat) (a : Automaton) : Automaton := if before = 0 then a else a.addBranch before

/-- The automaton that searches for a pattern.  It begins anywhere, unless a match is bound to the
end of the text from which it reads; forwards it keeps where a match begins and ends. -/
def automaton (d : Direction) (p : Pattern) : Automaton :=
  let bound := match d with
    | .forwards => p.startsAtStart
    | .backwards => p.stopsAtStop
  let start := if bound then Automaton.empty.add 1
    else ((Automaton.empty.addFork 2).add 1).addRanges 1
  match d with
  | .forwards => (build d p 0 (start.add 1)).add 2
  | .backwards => (build d p 0 start).add 1

end Offload.Pattern
