/-
**Which log records are printed.**

A filter is a list of rules separated by commas.  A rule is a level, which holds for every source;
or the beginning of a source's name, with a level after an equals sign or without one, in which
case everything from such sources passes.  Of the rules that fit a source the one with the longest
name decides.  After a slash may follow a pattern that the text of a record has to match.

Main definitions:

* `Log.Filter` — a filter; `Log.Filter.parse` — reading one;
* `Log.Filter.admits` — does a record pass?
-/

import Offload.Log
import Offload.Pattern.Match
import Offload.Pattern.Parse
import Offload.Text.Blank

set_option relaxedAutoImplicit false
set_option autoImplicit false

namespace Offload.Log

/-- The level of a name, in any case; `off` is no level at all. -/
def Level.ofName? (s : String) : Option (Option Level) :=
  let upper := s.map Char.toUpper
  if upper = "OFF" then some none
  else ([Level.error, .warn, .info, .debug, .trace].find? fun l => l.name == upper).map some

/-- A rule: for the sources whose name starts with `source`, or for all, records pass up to a
level. -/
structure Rule where
  source : Option String
  threshold : Option Level
  deriving DecidableEq, Repr

/-- A filter: rules in the order in which they are tried, and a pattern that has to be matched. -/
structure Filter where
  rules : List Rule
  pattern : Option Pattern
  deriving DecidableEq, Repr

namespace Filter

/-- The pieces of a list between separators. -/
def splitAt (separator : Char) : List Char → List (List Char)
  | [] => [[]]
  | c :: rest =>
    if c = separator then [] :: splitAt separator rest
    else
      match splitAt separator rest with
      | [] => [[c]]
      | first :: more => (c :: first) :: more

/-- Reads one rule; `none` for an empty one, an error text for one that is no rule. -/
def readRule (cs : List Char) : Except String (Option Rule) :=
  let trimmed := Text.trimChars cs
  if trimmed.isEmpty then .ok none
  else
    match splitAt '=' trimmed with
    | [name] =>
      let name := String.ofList name
      match Level.ofName? name with
      | some threshold => .ok (some ⟨none, threshold⟩)
      | none => .ok (some ⟨name, some .trace⟩)
    | [name, level] =>
      let level := Text.trimChars level
      if level.isEmpty then .ok (some ⟨String.ofList name, some .trace⟩)
      else
        match Level.ofName? (String.ofList level) with
        | some threshold => .ok (some ⟨String.ofList name, threshold⟩)
        | none => .error (String.ofList level)
    | _ => .error (String.ofList trimmed)

/-- The rules with one more, in place of the one for the same sources if there is one. -/
def insert (r : Rule) : List Rule → List Rule
  | [] => [r]
  | s :: rest => if s.source = r.source then r :: rest else s :: insert r rest

/-- The length of the name in a rule. -/
def nameLength (r : Rule) : Nat := (r.source.getD "").utf8ByteSize

/-- Puts a rule in front of those whose names are no longer than its own. -/
def place (r : Rule) : List Rule → List Rule
  | [] => [r]
  | s :: rest => if nameLength s ≤ nameLength r then r :: s :: rest else s :: place r rest

/-- The rules in the order in which they are tried: long names first, and of names of one length
the one that came last.  Without a rule only errors pass. -/
def order (rules : List Rule) : List Rule :=
  if rules.isEmpty then [⟨none, some .error⟩] else rules.foldl (fun acc r => place r acc) []

/-- Reads the pattern, if there is one.  What is no pattern is left out, and reported. -/
def readPattern : Option (List Char) → Option Pattern × List String
  | none => (none, [])
  | some text =>
    match Pattern.parse text with
    | .ok p => (some p, [])
    | .error e => (none, ["invalid regex filter - " ++ e.message text])

/-- Reads a filter.  What is no rule is left out, and reported. -/
def parse (s : String) : Filter × List String :=
  let invalid (text : String) : String := "invalid logging spec '" ++ text ++ "'"
  match splitAt '/' s.toList with
  | rules :: more =>
    if 1 < more.length then
      (⟨order [], none⟩, [invalid s ++ " (too many '/'s)"])
    else
      let read := (splitAt ',' rules).map readRule
      let good := read.filterMap fun
        | .ok r => r
        | .error _ => none
      let bad := read.filterMap fun
        | .ok _ => none
        | .error text => some (invalid text)
      let (pattern, wrong) := readPattern more.head?
      (⟨order (good.foldl (fun acc r => insert r acc) []), pattern⟩, bad ++ wrong)
  | [] => (⟨order [], none⟩, [])

/-- The filter that lets records up to a level pass. -/
def upTo (level : Level) : Filter := ⟨[⟨none, some level⟩], none⟩

/-- Does a rule hold for a source? -/
def applies (r : Rule) (source : Source) : Bool :=
  match r.source with
  | some name => name.toList.isPrefixOf source.name.toList
  | none => true

/-- Does a record pass? -/
def admits (f : Filter) (r : Record) : Bool :=
  let level := match f.rules.find? fun rule => applies rule r.source with
    | some rule => Level.admits rule.threshold r.level
    | none => false
  level && f.pattern.all fun p => p.isMatch r.text

end Filter

end Offload.Log
