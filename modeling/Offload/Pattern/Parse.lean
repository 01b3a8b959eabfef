/-
**Texts as patterns.**

A text is read as a pattern, and refused if it is none, if the pattern takes up too much room, or
if it asks for the edges of words in Unicode mode, for which there is no table.

Main definitions:

* `Pattern.asksUnicodeWords` — does a pattern ask for the edges of words in Unicode mode?
* `Pattern.Error` — why a text is refused; `Error.message` — the report on it;
* `Pattern.parse` — a text as a pattern.
-/

import Offload.Pattern.Automaton
import Offload.Pattern.Meaning
import Offload.Pattern.Reader

set_option relaxedAutoImplicit false
set_option autoImplicit false

namespace Offload.Pattern

/-- Does a pattern ask for the edges of words in Unicode mode? -/
def asksUnicodeWords : Pattern → Bool
  | .look (.word _ unicode) => unicode
  | .seq p q => p.asksUnicodeWords || q.asksUnicodeWords
  | .alt p q => p.asksUnicodeWords || q.asksUnicodeWords
  | .capture _ p => p.asksUnicodeWords
  | .times _ _ _ p => p.asksUnicodeWords
  | _ => false

/-! ### Reading -/

/-- Why a text is refused. -/
inductive Error where
  | refused (r : Refusal)
  | tooLarge
  | unicodeWords
  deriving DecidableEq, Repr

/-- The report on a text that is refused. -/
def Error.message (text : List Char) : Error → String
  | refused r => r.report text
  | tooLarge => "Compiled regex exceeds size limit of " ++ toString room ++ " bytes."
  | unicodeWords => "error building NFA"

/-- A text as a pattern.  Whether there is room for it is looked at for one direction before the
edges of words, and for the other one behind them. -/
def parse (text : List Char) : Except Error Pattern :=
  match (Tree.read text).bind fun t => t.meaning .initial with
  | .error r => .error (.refused r)
  | .ok (p, _) =>
    if !(automaton .forwards p).fits then .error .tooLarge
    else if p.asksUnicodeWords then .error .unicodeWords
    else if !(automaton .backwards p).fits then .error .tooLarge
    else .ok p

end Offload.Pattern
