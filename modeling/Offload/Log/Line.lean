/-
**The log as it is printed.**

A record takes a line: its level, its source and its text.  A text of several lines is indented
from its second line on, and since the log is no terminal it is printed without control sequences.

Main definitions:

* `Log.indent` — a text with its lines indented;
* `Log.Record.line` — a record as it is printed.

Main results:

* `Log.indent_append` — a text is indented piece by piece.
-/

import Offload.Log
import Offload.Text.Unstyled

set_option relaxedAutoImplicit false
set_option autoImplicit false

namespace Offload.Log

/-- A text with blanks at the start of each line but the first. -/
def indent (cs : List Char) : List Char :=
  cs.flatMap fun c => if c = '\n' then ['\n', ' ', ' ', ' ', ' '] else [c]

@[simp] theorem indent_append (first rest : List Char) :
    indent (first ++ rest) = indent first ++ indent rest := List.flatMap_append

/-- The level of a record, in five columns, and its source, as they stand before its text. -/
def Record.heading (r : Record) : String :=
  let level := r.level.name ++ String.ofList (List.replicate (5 - r.level.name.length) ' ')
  "[" ++ level ++ " " ++ r.source.name ++ "] "

/-- A record as it is printed. -/
def Record.line (r : Record) : String :=
  String.ofList (Text.unstyled (r.heading.toList ++ indent r.text.toList ++ ['\n']))

end Offload.Log
