/-
**Reading bytes as UTF-8.**

Paths, arguments and values of the environment are bytes.  They are read as text piece by piece:
a piece is a character, or a longest run of bytes that begins a character and does not complete it
(one byte where no character begins).

Main definitions:

* `Text.Piece`, `Text.pieces` — the pieces of a byte string;
* `Text.decodeUtf8?` — the text, when every piece is a character;
* `Text.lossy` — the text with U+FFFD in place of each piece that is no character.

Main results:

* `Text.pieces_ascii` — ASCII bytes stand for the characters of the same number.
-/

set_option relaxedAutoImplicit false
set_option autoImplicit false

namespace Offload.Text

/-- A piece of a byte string read as UTF-8. -/
inductive Piece where
  | char (c : Char)
  | broken (bytes : List UInt8)
  deriving DecidableEq, Repr

/-- Is the byte one that continues a character? -/
def isContinuation (b : UInt8) : Bool := 0x80 ≤ b && b ≤ 0xbf

/-- The six bits that a continuation byte carries. -/
def payload (b : UInt8) : Nat := b.toNat % 64

/-- The range of the second byte after a leading byte of a character with three or four bytes:
some are narrower than the continuation bytes, to shut out overlong forms, surrogates and code
points past U+10FFFF. -/
def secondByteOk (lead b : UInt8) : Bool :=
  if lead == 0xe0 then 0xa0 ≤ b && b ≤ 0xbf
  else if lead == 0xed then 0x80 ≤ b && b ≤ 0x9f
  else if lead == 0xf0 then 0x90 ≤ b && b ≤ 0xbf
  else if lead == 0xf4 then 0x80 ≤ b && b ≤ 0x8f
  else isContinuation b

/-- The first piece of `lead :: rest`, and how many bytes of `rest` belong to it. -/
def firstPiece (lead : UInt8) (rest : List UInt8) : Piece × Nat :=
  if lead < 0x80 then (.char (Char.ofNat lead.toNat), 0)
  else if 0xc2 ≤ lead && lead ≤ 0xdf then
    match rest with
    | b :: _ =>
      if isContinuation b then
        (.char (Char.ofNat (lead.toNat % 32 * 64 + payload b)), 1)
      else (.broken [lead], 0)
    | [] => (.broken [lead], 0)
  else if 0xe0 ≤ lead && lead ≤ 0xef then
    match rest with
    | b :: more =>
      if secondByteOk lead b then
        match more with
        | c :: _ =>
          if isContinuation c then
            (.char (Char.ofNat (lead.toNat % 16 * 4096 + payload b * 64 + payload c)), 2)
          else (.broken [lead, b], 1)
        | [] => (.broken [lead, b], 1)
      else (.broken [lead], 0)
    | [] => (.broken [lead], 0)
  else if 0xf0 ≤ lead && lead ≤ 0xf4 then
    match rest with
    | b :: more =>
      if secondByteOk lead b then
        match more with
        | c :: more' =>
          if isContinuation c then
            match more' with
            | d :: _ =>
              if isContinuation d then
                (.char (Char.ofNat
                  (lead.toNat % 8 * 262144 + payload b * 4096 + payload c * 64 + payload d)), 3)
              else (.broken [lead, b, c], 2)
            | [] => (.broken [lead, b, c], 2)
          else (.broken [lead, b], 1)
        | [] => (.broken [lead, b], 1)
      else (.broken [lead], 0)
    | [] => (.broken [lead], 0)
  else (.broken [lead], 0)

/-- The pieces of a byte string. -/
def pieces : List UInt8 → List Piece
  | [] => []
  | lead :: rest =>
    let first := firstPiece lead rest
    first.1 :: pieces (rest.drop first.2)
termination_by bytes => bytes.length
decreasing_by
  rw [List.length_drop, List.length_cons]
  omega

@[simp] theorem pieces_nil : pieces [] = [] := by simp [pieces]

/-- A byte of ASCII is the character of the same number, whatever follows it. -/
theorem pieces_ascii {b : UInt8} (h : b < 0x80) (rest : List UInt8) :
    pieces (b :: rest) = .char (Char.ofNat b.toNat) :: pieces rest := by
  rw [pieces]
  simp [firstPiece, h]

/-- The characters, when every piece is one. -/
def charsOf? : List Piece → Option (List Char)
  | [] => some []
  | .char c :: rest => (charsOf? rest).map (c :: ·)
  | .broken _ :: _ => none

/-- The text that the bytes spell, if they are well-formed UTF-8. -/
def decodeUtf8? (bytes : List UInt8) : Option String :=
  (charsOf? (pieces bytes)).map String.ofList

/-- The text that the bytes spell, with U+FFFD for each piece that is no character. -/
def lossy (bytes : List UInt8) : String :=
  String.ofList ((pieces bytes).map fun
    | .char c => c
    | .broken _ => Char.ofNat 0xfffd)

/-- The bytes of a text in UTF-8. -/
def encodeUtf8 (s : String) : List UInt8 := s.toUTF8.data.toList

end Offload.Text
