/-
**From what is written to what it means.**

What a pattern means depends on the flags that are switched where it stands.  In Unicode mode a
class may hold any character, but the sets and the cases of letters that would need tables of their
own are not available; outside of it a pattern deals in ASCII, and may not stand for anything that
is no part of a text.

Main definitions:

* `Pattern.Mode` — the flags that count;
* `Atom.meaning`, `ClassItem.meaning`, `Tree.meaning` — the pattern that is meant, or why there is
  none.
-/

import Offload.Pattern.Basic

set_option relaxedAutoImplicit false
set_option autoImplicit false

namespace Offload.Pattern

/-! ### Modes -/

/-- The flags that make a difference to what is meant. -/
structure Mode where
  ignoreCase : Bool
  multiLine : Bool
  dotAll : Bool
  lazyFirst : Bool
  unicode : Bool
  crlf : Bool
  deriving DecidableEq, Repr

/-- The mode at the beginning. -/
def Mode.initial : Mode := ⟨false, false, false, false, true, false⟩

/-- The mode after switches. -/
def Mode.change (m : Mode) (s : Switches) : Mode where
  ignoreCase := s.apply .ignoreCase m.ignoreCase
  multiLine := s.apply .multiLine m.multiLine
  dotAll := s.apply .dotAll m.dotAll
  lazyFirst := s.apply .lazyFirst m.lazyFirst
  unicode := s.apply .unicode m.unicode
  crlf := s.apply .crlf m.crlf

/-! ### Characters and named sets -/

/-- Outside of Unicode mode a byte that is no ASCII character is no part of a text. -/
def checkByte (m : Mode) (l : Literal) : Reading Unit :=
  if !m.unicode && l.isByte && '\x7f' < l.char then refuse .invalidText l.span else .ok ()

/-- The meaning of a character. -/
def Literal.meaning (m : Mode) (l : Literal) : Reading Pattern := do
  checkByte m l
  if !m.ignoreCase then return ofChar l.char
  else if m.unicode then refuse .noCase l.span
  else return ofSet false (.anyCase (.single l.char))

/-- A character as a member of a class, which outside of Unicode mode is one of ASCII. -/
def Literal.member (m : Mode) (l : Literal) : Reading Char := do
  checkByte m l
  if !m.unicode && '\x7f' < l.char then refuse .beyondAscii l.span else return l.char

/-- The name of a property without blanks, hyphens and underscores, without `is` in front, and in
lower case. -/
def plainName (name : List Char) : List Char :=
  let bare := match name with
    | a :: b :: rest => if a.toLower = 'i' ∧ b.toLower = 's' then rest else name
    | _ => name
  let isMark (c : Char) : Bool := c = ' ' || c = '_' || c = '-'
  (bare.filter fun c => c.toNat < 128 && !isMark c).map Char.toLower

/-- Why a property stands for no set: three names are known to be values, of which there is no
table; of all the others nothing is known. -/
def propertyFault (name : List Char) : Fault :=
  if name.any fun c => c = ':' || c = '=' then .noProperty
  else if ["cf", "sc", "lc"].contains (String.ofList (plainName name)) then .noPropertyValue
  else .noProperty

/-- A set of characters, and whether it lists something whose case still counts. -/
structure Members where
  set : CharSet
  cased : Bool

/-- The members with the case of letters forgotten, if it is to be ignored. -/
def Members.fold (m : Mode) (span : Span) (x : Members) : Reading Members :=
  if !m.ignoreCase then .ok x
  else if !m.unicode then .ok ⟨.anyCase x.set, false⟩
  else if x.cased then refuse .noCase span
  else .ok x

/-- What is not among the members, if that is meant.  Outside of Unicode mode that would hold more
than ASCII. -/
def Members.negateIf (m : Mode) (span : Span) (negated : Bool) (x : Members) : Reading Members :=
  if !negated then .ok x
  else if m.unicode then .ok { x with set := .compl x.set }
  else refuse .invalidText span

/-- The meaning of a named set. -/
def NamedSet.meaning (m : Mode) (span : Span) (negated : Bool) : NamedSet → Reading Members
  | .shorthand kind =>
    if m.unicode then refuse .noShorthand span
    else Members.negateIf m span negated ⟨.ofShorthand kind, true⟩
  | .ascii kind => do
    let x ← Members.fold m span ⟨.ofAsciiClass kind, true⟩
    x.negateIf m span negated
  | .property name =>
    refuse (if m.unicode then propertyFault name else .beyondAscii) span

/-! ### Classes -/

mutual

/-- The meaning of an item of a class. -/
def ClassItem.meaning (m : Mode) : ClassItem → Reading Members
  | .empty _ => .ok ⟨.empty, false⟩
  | .literal l => do
    let c ← l.member m
    return ⟨.single c, true⟩
  | .range _ first last => do
    let lo ← first.member m
    let hi ← last.member m
    return ⟨.range lo hi, true⟩
  | .named span set negated => set.meaning m span negated
  | .bracket span negated content => do
    let x ← content.meaning m
    let x ← x.fold m span
    x.negateIf m span negated
  | .union _ items => ClassItem.unionMeaning m items
  | .operation _ op left right => do
    let x ← left.meaning m
    let y ← right.meaning m
    let y ← y.fold m right.span
    let x ← x.fold m left.span
    return ⟨.operate op x.set y.set, x.cased || y.cased⟩

/-- The meaning of several items together. -/
def ClassItem.unionMeaning (m : Mode) : List ClassItem → Reading Members
  | [] => .ok ⟨.empty, false⟩
  | item :: rest => do
    let x ← item.meaning m
    let y ← ClassItem.unionMeaning m rest
    return ⟨.union x.set y.set, x.cased || y.cased⟩

end

/-! ### Patterns -/

/-- The meaning of a dot, which outside of Unicode mode would stand for any byte. -/
def dotMeaning (m : Mode) (span : Span) : Reading CharSet :=
  if !m.unicode then refuse .invalidText span
  else if m.dotAll then .ok .all
  else if m.crlf then .ok (.compl (.ofList [('\n', '\n'), ('\r', '\r')]))
  else .ok (.compl (.single '\n'))

/-- The meaning of a condition on a place. -/
def Anchor.meaning (m : Mode) : Anchor → Look
  | .lineStart => if m.multiLine then .lineStart m.crlf else .textStart
  | .lineStop => if m.multiLine then .lineStop m.crlf else .textStop
  | .textStart => .textStart
  | .textStop => .textStop
  | .word edge => .word edge m.unicode

/-- The meaning of an atom. -/
def Atom.meaning (m : Mode) : Atom → Reading Pattern
  | .literal l => l.meaning m
  | .anyChar span => (dotMeaning m span).map (ofSet true)
  | .anchor _ kind => .ok (.look (kind.meaning m))
  | .named span set negated => (set.meaning m span negated).map fun x => ofSet m.unicode x.set

mutual

/-- The meaning of a pattern in a mode, and the mode behind it. -/
def Tree.meaning (m : Mode) : Tree → Reading (Pattern × Mode)
  | .empty _ => .ok (.empty, m)
  | .atom a => do
    let p ← a.meaning m
    return (p, m)
  | .set item => do
    let x ← item.meaning m
    return (ofSet m.unicode x.set, m)
  | .switches _ change => .ok (.empty, m.change change)
  | .group span captures change body => do
    let (p, _) ← body.meaning (m.change change)
    return (if captures then .capture span.start.index p else p, m)
  | .repetition _ least most isLazy body => do
    let (p, m) ← body.meaning m
    return (repeated least most (isLazy != m.lazyFirst) p, m)
  | .concat _ parts => do
    let (ps, m) ← Tree.meanings m parts
    return (Pattern.ofParts ps, m)
  | .alternation _ branches => do
    let (ps, m) ← Tree.meanings m branches
    return (Pattern.choice ps, m)

/-- The meanings of patterns one after another.  What is switched in one of them is switched in
those that follow. -/
def Tree.meanings (m : Mode) : List Tree → Reading (List Pattern × Mode)
  | [] => .ok ([], m)
  | t :: rest => do
    let (p, m) ← t.meaning m
    let (ps, m) ← Tree.meanings m rest
    return (p :: ps, m)

end

end Offload.Pattern
