/-
**What is wrong with a pattern.**

A text that is no pattern is refused for one reason, which belongs to a span of the text, and
sometimes to a second one, where the same name or flag stood before.  The report shows the text
with the spans underlined: under it, or, when it has several lines, each line with its number and
what is underlined in it.  Only a span that ends in the line where it starts is underlined; of
another one the ends are told.

Main definitions:

* `Pattern.Fault` — the reasons; `Fault.message` — their wording;
* `Pattern.Refusal` — a reason and where it is seen; `Refusal.report` — the whole report.
-/

import Offload.Pattern.Place

set_option relaxedAutoImplicit false
set_option autoImplicit false

namespace Offload.Pattern

/-- Why a text is no pattern. -/
inductive Fault where
  | nestedTooDeep (limit : Nat)
  -- classes
  | classEscape
  | classRange
  | classRangeEnd
  | classUnclosed
  | className
  -- numbers
  | decimalEmpty
  | decimalTooLarge
  | hexEmpty
  | hexNoCharacter
  | hexDigit
  -- escapes
  | escapeAtEnd
  | escapeUnknown
  | backReference
  -- groups
  | flagDanglingNegation
  | flagTwice
  | flagSecondNegation
  | flagAtEnd
  | flagUnknown
  | nameTwice
  | nameEmpty
  | nameCharacter
  | nameUnclosed
  | groupUnclosed
  | groupUnopened
  | lookAround
  -- repetitions
  | countOrder
  | countEmpty
  | countUnclosed
  | nothingToRepeat
  -- edges of words
  | edgeUnclosed
  | edgeUnknown
  | edgeAtEnd
  -- meanings
  | beyondAscii
  | invalidText
  | noProperty
  | noPropertyValue
  | noShorthand
  | noCase
  deriving DecidableEq, Repr

/-- The wording of a reason. -/
def Fault.message : Fault → String
  | nestedTooDeep limit =>
    "exceed the maximum number of nested parentheses/brackets (" ++ toString limit ++ ")"
  | classEscape => "invalid escape sequence found in character class"
  | classRange => "invalid character class range, the start must be <= the end"
  | classRangeEnd => "invalid range boundary, must be a literal"
  | classUnclosed => "unclosed character class"
  | className => "invalid Unicode character class"
  | decimalEmpty => "decimal literal empty"
  | decimalTooLarge => "decimal literal invalid"
  | hexEmpty => "hexadecimal literal empty"
  | hexNoCharacter => "hexadecimal literal is not a Unicode scalar value"
  | hexDigit => "invalid hexadecimal digit"
  | escapeAtEnd => "incomplete escape sequence, reached end of pattern prematurely"
  | escapeUnknown => "unrecognized escape sequence"
  | backReference => "backreferences are not supported"
  | flagDanglingNegation => "dangling flag negation operator"
  | flagTwice => "duplicate flag"
  | flagSecondNegation => "flag negation operator repeated"
  | flagAtEnd => "expected flag but got end of regex"
  | flagUnknown => "unrecognized flag"
  | nameTwice => "duplicate capture group name"
  | nameEmpty => "empty capture group name"
  | nameCharacter => "invalid capture group character"
  | nameUnclosed => "unclosed capture group name"
  | groupUnclosed => "unclosed group"
  | groupUnopened => "unopened group"
  | lookAround => "look-around, including look-ahead and look-behind, is not supported"
  | countOrder => "invalid repetition count range, the start must be <= the end"
  | countEmpty => "repetition quantifier expects a valid decimal"
  | countUnclosed => "unclosed counted repetition"
  | nothingToRepeat => "repetition operator missing expression"
  | edgeUnclosed =>
    "special word boundary assertion is either unclosed or contains an invalid character"
  | edgeUnknown =>
    "unrecognized special word boundary assertion, " ++
      "valid choices are: start, end, start-half or end-half"
  | edgeAtEnd =>
    "found either the beginning of a special word boundary or a bounded repetition " ++
      "on a \\b with an opening brace, but no closing brace"
  | beyondAscii => "Unicode not allowed here"
  | invalidText => "pattern can match invalid UTF-8"
  | noProperty => "Unicode property not found"
  | noPropertyValue => "Unicode property value not found"
  | noShorthand =>
    "Unicode-aware Perl class not found (make sure the unicode-perl feature is enabled)"
  | noCase =>
    "Unicode-aware case insensitivity matching is not available " ++
      "(make sure the unicode-case feature is enabled)"

/-- A reason, the span that it belongs to, and the span where the same thing stood before. -/
structure Refusal where
  fault : Fault
  span : Span
  before : Option Span
  deriving DecidableEq, Repr

/-- What comes of reading: a value, or a refusal. -/
abbrev Reading (α : Type) := Except Refusal α

/-- Refuses for a reason at a span. -/
def refuse {α : Type} (fault : Fault) (span : Span) : Reading α := .error ⟨fault, span, none⟩

/-- Refuses because a thing at a span stood at another one before. -/
def refuseSecond {α : Type} (fault : Fault) (span before : Span) : Reading α :=
  .error ⟨fault, span, some before⟩

/-! ### The report -/

/-- The lines of a text, without the line feeds, or the carriage returns before them, that end
them; `line` holds the characters of a line so far, the last one first. -/
def linesFrom (line : List Char) : List Char → List (List Char)
  | [] => if line.isEmpty then [] else [line.reverse]
  | '\n' :: rest =>
    let whole := match line with
      | '\r' :: more => more
      | more => more
    whole.reverse :: linesFrom [] rest
  | c :: rest => linesFrom (c :: line) rest

/-- The lines of a text. -/
def linesOf (cs : List Char) : List (List Char) := linesFrom [] cs

/-- Does a span end in the line where it starts? -/
def Span.oneLine (s : Span) : Bool := s.start.line = s.stop.line

/-- Does a span come before another one? -/
def Span.comesBefore (s t : Span) : Bool :=
  s.start.index < t.start.index ||
    (s.start.index = t.start.index && s.stop.index ≤ t.stop.index)

/-- Carets under the spans, which come in order; `done` columns are already written. -/
def underline (done : Nat) : List Span → List Char
  | [] => []
  | s :: rest =>
    let gap := s.start.column - 1 - done
    let width := max 1 (s.stop.column - s.start.column)
    List.replicate gap ' ' ++ List.replicate width '^' ++ underline (done + gap + width) rest

namespace Refusal

/-- The spans of a refusal, in order. -/
def spans (r : Refusal) : List Span :=
  match r.before with
  | none => [r.span]
  | some b => if b.comesBefore r.span then [b, r.span] else [r.span, b]

/-- What is noted under a line: its carets, moved to the right, if it has any. -/
def notes (r : Refusal) (margin line : Nat) : List (List Char) :=
  match r.spans.filter fun s => s.oneLine && s.start.line = line with
  | [] => []
  | here => [List.replicate margin ' ' ++ underline 0 here]

/-- The lines of a text from a number on, each behind what marks it, with the notes under them. -/
def noted (r : Refusal) (mark : Nat → List Char) : Nat → List (List Char) → List (List Char)
  | _, [] => []
  | n, line :: rest =>
    ((mark n ++ line) :: r.notes (mark n).length n) ++ noted r mark (n + 1) rest

/-- How many digits the number of the last line has: a text that ends in a line feed has a line
more, which is empty. -/
def numberWidth (cs : List Char) : Nat :=
  let count := (linesOf cs).length + if cs.getLast? = some '\n' then 1 else 0
  (toString count).length

/-- The ends of a span of several lines. -/
def ends (s : Span) : List Char :=
  ("on line " ++ toString s.start.line ++ " (column " ++ toString s.start.column ++
    ") through line " ++ toString s.stop.line ++ " (column " ++ toString (s.stop.column - 1) ++
    ")").toList

/-- The number of a line in a column of the given width, as it stands before the line. -/
def numbered (width n : Nat) : List Char :=
  let digits := (toString n).toList
  List.replicate (width - digits.length) ' ' ++ digits ++ [':', ' ']

/-- The lines of the report on a text, but the last one. -/
def body (cs : List Char) (r : Refusal) : List (List Char) :=
  if cs.contains '\n' then
    let rule := List.replicate 79 '~'
    [rule] ++ r.noted (numbered (numberWidth cs)) 1 (linesOf cs) ++ [rule] ++
      (r.spans.filter fun s => !s.oneLine).map ends
  else r.noted (fun _ => List.replicate 4 ' ') 1 (linesOf cs)

/-- The whole report on a text. -/
def report (cs : List Char) (r : Refusal) : String :=
  "\n".intercalate ("regex parse error:" :: (r.body cs).map String.ofList ++
    ["error: " ++ r.fault.message])

end Refusal

end Offload.Pattern
