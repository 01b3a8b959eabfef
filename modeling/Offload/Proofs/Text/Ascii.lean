/-
**Text of ASCII characters has one form in UTF-8.**

A byte below 128 is a character by itself, and a character of several bytes is never one of ASCII:
the ranges of leading and second bytes shut out all longer ways to write it.  So bytes are read as a
text of ASCII characters only if they are those characters, one by one.

Main definitions:

* `Text.ascii` — the bytes of ASCII characters.

Main results:

* `Text.decodeUtf8?_ascii` — ASCII bytes are read as the characters that they were made from;
* `Text.wide_of_firstPiece` — what starts with another byte is no ASCII character;
* `Text.eq_ascii_of_decodeUtf8?` — **no other bytes are read as these characters**.
-/

import Offload.Text.Utf8

set_option relaxedAutoImplicit false
set_option autoImplicit false

namespace Offload.Text

/-! ### Reading what was written -/

variable {cs : List Char}

/-- The bytes of ASCII characters. -/
def ascii (cs : List Char) : List UInt8 := cs.map fun c => UInt8.ofNat c.toNat

theorem pieces_ascii_chars (h : ∀ c ∈ cs, c.toNat < 128) :
    pieces (ascii cs) = cs.map Piece.char := by
  induction cs with
  | nil => exact pieces_nil
  | cons c cs ih =>
      obtain ⟨hc, hcs⟩ := List.forall_mem_cons.1 h
      have htoNat : (UInt8.ofNat c.toNat).toNat = c.toNat := by
        rw [UInt8.toNat_ofNat']
        exact Nat.mod_eq_of_lt (by omega)
      have hlt : UInt8.ofNat c.toNat < 0x80 := by
        rw [UInt8.lt_iff_toNat_lt, htoNat]
        exact hc
      rw [ascii, List.map_cons, pieces_ascii hlt, htoNat, Char.ofNat_toNat, List.map_cons]
      exact congrArg _ (ih hcs)

theorem charsOf?_map_char (cs : List Char) : charsOf? (cs.map Piece.char) = some cs := by
  induction cs with
  | nil => rfl
  | cons c cs ih => rw [List.map_cons, charsOf?, ih, Option.map_some]

/-- ASCII bytes are read as the characters that they were made from. -/
theorem decodeUtf8?_ascii (h : ∀ c ∈ cs, c.toNat < 128) :
    decodeUtf8? (ascii cs) = some (String.ofList cs) := by
  rw [decodeUtf8?, pieces_ascii_chars h, charsOf?_map_char, Option.map_some]

/-- So are those of a text of ASCII characters. -/
theorem decodeUtf8?_ascii_toList {s : String} (h : s.toList.all (·.toNat < 128) = true) :
    decodeUtf8? (ascii s.toList) = some s := by
  have hascii : ∀ c ∈ s.toList, c.toNat < 128 := fun c hc =>
    of_decide_eq_true (List.all_eq_true.1 h c hc)
  rw [decodeUtf8?_ascii hascii, String.ofList_toList]

/-! ### Characters of several bytes -/

variable {lead b d e : UInt8} {bytes rest : List UInt8} {c : Char} {n k : Nat}

theorem toNat_charOfNat (h : k < 0xd800 ∨ 0xdfff < k ∧ k < 0x110000) :
    (Char.ofNat k).toNat = k := by
  have heq : Char.ofNat k = Char.ofNatAux k h := dif_pos h
  rw [heq]
  rfl

/-- The bytes of a range, by their numbers. -/
theorem mem_byteRange_iff (low high b : UInt8) :
    (low ≤ b && b ≤ high) = true ↔ low.toNat ≤ b.toNat ∧ b.toNat ≤ high.toNat := by
  simp only [Bool.and_eq_true, decide_eq_true_eq, UInt8.le_iff_toNat_le]

/-- What the second byte of a character of three or four bytes may be. -/
theorem secondByteOk_iff (lead b : UInt8) : secondByteOk lead b = true ↔
    0x80 ≤ b.toNat ∧ b.toNat ≤ 0xbf ∧ (lead.toNat = 0xe0 → 0xa0 ≤ b.toNat) ∧
      (lead.toNat = 0xed → b.toNat ≤ 0x9f) ∧ (lead.toNat = 0xf0 → 0x90 ≤ b.toNat) ∧
      (lead.toNat = 0xf4 → b.toNat ≤ 0x8f) := by
  have hiff : ∀ k : UInt8, lead == k ↔ lead.toNat = k.toNat := fun k => by
    rw [beq_iff_eq, ← UInt8.toNat_inj]
  rw [secondByteOk]
  simp only [hiff, isContinuation, UInt8.reduceToNat]
  repeat' split
  all_goals
    rw [mem_byteRange_iff]
    simp only [UInt8.reduceToNat]
    omega

theorem wide_two (hlead : (0xc2 ≤ lead && lead ≤ 0xdf) = true) :
    128 ≤ (Char.ofNat (lead.toNat % 32 * 64 + payload b)).toNat := by
  obtain ⟨hlow, hhigh⟩ := (mem_byteRange_iff _ _ _).1 hlead
  simp only [UInt8.reduceToNat] at hlow hhigh
  rw [payload, toNat_charOfNat (by omega)]
  omega

/-- The second byte shuts out what would fit two bytes, and the surrogates. -/
theorem wide_three (hlead : (0xe0 ≤ lead && lead ≤ 0xef) = true)
    (hb : secondByteOk lead b = true) :
    128 ≤ (Char.ofNat (lead.toNat % 16 * 4096 + payload b * 64 + payload d)).toNat := by
  obtain ⟨hlow, hhigh⟩ := (mem_byteRange_iff _ _ _).1 hlead
  obtain ⟨hblow, hbhigh, he0, hed, -⟩ := (secondByteOk_iff _ _).1 hb
  simp only [UInt8.reduceToNat] at hlow hhigh
  rw [payload, payload, toNat_charOfNat (by omega)]
  omega

/-- The second byte shuts out what would fit three bytes, and what is past the last character. -/
theorem wide_four (hlead : (0xf0 ≤ lead && lead ≤ 0xf4) = true)
    (hb : secondByteOk lead b = true) :
    128 ≤ (Char.ofNat (lead.toNat % 8 * 262144 + payload b * 4096 + payload d * 64 +
      payload e)).toNat := by
  obtain ⟨hlow, hhigh⟩ := (mem_byteRange_iff _ _ _).1 hlead
  obtain ⟨hblow, hbhigh, -, -, hf0, hf4⟩ := (secondByteOk_iff _ _).1 hb
  simp only [UInt8.reduceToNat] at hlow hhigh
  rw [payload, payload, payload, toNat_charOfNat (by omega)]
  omega

/-- **What starts with a byte that is no ASCII is no ASCII character.** -/
theorem wide_of_firstPiece (hlead : ¬lead < 0x80) (h : firstPiece lead rest = (.char c, n)) :
    128 ≤ c.toNat := by
  unfold firstPiece at h
  rw [if_neg hlead] at h
  split at h
  · next htwo =>
      split at h
      · split at h <;> cases h
        exact wide_two htwo
      · cases h
  · split at h
    · next hthree =>
        split at h
        · split at h
          · next hb =>
              split at h
              · split at h <;> cases h
                exact wide_three hthree hb
              · cases h
          · cases h
        · cases h
    · split at h
      · next hfour =>
          split at h
          · split at h
            · next hb =>
                split at h
                · split at h
                  · split at h
                    · split at h <;> cases h
                      exact wide_four hfour hb
                    · cases h
                  · cases h
                · cases h
            · cases h
          · cases h
      · cases h

/-! ### Only what was written is read -/

theorem eq_map_char_of_charsOf? {ps : List Piece} (h : charsOf? ps = some cs) :
    ps = cs.map Piece.char := by
  induction ps generalizing cs with
  | nil =>
      cases h
      rfl
  | cons piece ps ih =>
      cases piece with
      | broken bytes => cases h
      | char c =>
          obtain ⟨more, hmore, rfl⟩ := Option.map_eq_some_iff.1 h
          rw [ih hmore, List.map_cons]

theorem eq_ascii_of_pieces (hcs : ∀ c ∈ cs, c.toNat < 128)
    (h : pieces bytes = cs.map Piece.char) : bytes = ascii cs := by
  induction cs generalizing bytes with
  | nil =>
      cases bytes with
      | nil => rfl
      | cons lead rest =>
          rw [pieces] at h
          cases h
  | cons c cs ih =>
      obtain ⟨hc, hmore⟩ := List.forall_mem_cons.1 hcs
      cases bytes with
      | nil =>
          rw [pieces_nil] at h
          cases h
      | cons lead rest =>
          by_cases hlead : lead < 0x80
          · rw [pieces_ascii hlead, List.map_cons, List.cons.injEq, Piece.char.injEq] at h
            obtain ⟨rfl, hrest⟩ := h
            have hlt : lead.toNat < 128 := hlead
            rw [ascii, List.map_cons, toNat_charOfNat (by omega), UInt8.ofNat_toNat]
            exact congrArg _ (ih hmore hrest)
          · rw [pieces, List.map_cons, List.cons.injEq] at h
            have hwide := wide_of_firstPiece hlead (Prod.ext h.1 rfl)
            omega

/-- **Only ASCII bytes are read as a text of ASCII characters.** -/
theorem eq_ascii_of_decodeUtf8? {s : String} (hs : ∀ c ∈ s.toList, c.toNat < 128)
    (h : decodeUtf8? bytes = some s) : bytes = ascii s.toList := by
  obtain ⟨cs, hchars, rfl⟩ := Option.map_eq_some_iff.1 h
  rw [String.toList_ofList] at hs ⊢
  exact eq_ascii_of_pieces hs (eq_map_char_of_charsOf? hchars)

end Offload.Text
