/-
**Quoted text.**

Messages show names and values between double quotes.  A quote and a backslash inside are escaped
with a backslash, as are the tab, the line breaks and the null character; a character that leaves
no mark of its own, or that would join the one before it, is written by its number in braces; a
byte that is no part of a character is written as two upper-case hexadecimal digits.

Main definitions:

* `Text.escapeChar` — what stands for a character between the quotes;
* `Text.quoted` — a text in quotes;
* `Text.quotedBytes` — bytes read as UTF-8, in quotes.
-/

import Offload.Text.Hex
import Offload.Text.Printable
import Offload.Text.Utf8

set_option relaxedAutoImplicit false
set_option autoImplicit false

namespace Offload.Text

/-- What stands for a character between the quotes. -/
def escapeChar (c : Char) : List Char :=
  if c = '"' then ['\\', '"']
  else if c = '\\' then ['\\', '\\']
  else if c = '\n' then ['\\', 'n']
  else if c = '\r' then ['\\', 'r']
  else if c = '\t' then ['\\', 't']
  else if c = Char.ofNat 0 then ['\\', '0']
  else if isExtending c || !isPrintable c then
    ['\\', 'u', '\x7b'] ++ hexChars c.toNat ++ ['\x7d']
  else [c]

/-- The text in quotes. -/
def quoted (s : String) : String :=
  String.ofList (['"'] ++ s.toList.flatMap escapeChar ++ ['"'])

/-- A byte as two upper-case hexadecimal digits. -/
def upperHexByte (b : UInt8) : List Char :=
  (paddedHexChars 2 b.toNat).map Char.toUpper

/-- What stands for a piece of a byte string between the quotes. -/
def escapePiece : Piece → List Char
  | .char c => escapeChar c
  | .broken bytes => bytes.flatMap fun b => ['\\', 'x'] ++ upperHexByte b

/-- The bytes, read as UTF-8, in quotes. -/
def quotedBytes (bytes : List UInt8) : String :=
  String.ofList (['"'] ++ (pieces bytes).flatMap escapePiece ++ ['"'])

end Offload.Text
