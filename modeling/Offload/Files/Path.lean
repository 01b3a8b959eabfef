/-
**Paths.**

A path is a string of bytes; names in it are separated by slashes.  It need not be text: messages
show it in quotes, and the list of parameters with U+FFFD for what is no character.

Main definitions:

* `Path` — a path;
* `Path.quoted`, `Path.shown` — the two ways to show it;
* `Path.names` — the names between the slashes;
* `Path.isAbsolute`, `Path.endsInSlash` — how it starts and ends.
-/

import Offload.Text.Quoted

set_option relaxedAutoImplicit false
set_option autoImplicit false

namespace Offload

/-- A path, as bytes. -/
structure Path where
  bytes : List UInt8
  deriving DecidableEq, Repr, Inhabited

namespace Path

/-- The path that a text spells. -/
def ofString (s : String) : Path := ⟨Text.encodeUtf8 s⟩

/-- The path in quotes. -/
def quoted (p : Path) : String := Text.quotedBytes p.bytes

/-- The path as text. -/
def shown (p : Path) : String := Text.lossy p.bytes

/-- The byte that separates names. -/
def slash : UInt8 := 47

/-- The pieces between the slashes of a list of bytes; there is always one more than slashes. -/
def splitSlashes : List UInt8 → List (List UInt8)
  | [] => [[]]
  | b :: rest =>
    if b = slash then [] :: splitSlashes rest
    else
      match splitSlashes rest with
      | [] => [[b]]
      | first :: more => (b :: first) :: more

/-- The names in a path, in order. -/
def names (p : Path) : List (List UInt8) := (splitSlashes p.bytes).filter fun n => !n.isEmpty

/-- Does the path start at the root? -/
def isAbsolute (p : Path) : Bool := p.bytes.head? == some slash

/-- Is there a slash after the last name? -/
def endsInSlash (p : Path) : Bool := p.bytes.getLast? == some slash

end Path

end Offload
