/-
**Options as they are written, and how they are read.**

An option with a value can be written in three ways: with a long name and the value attached to it,
or with a long name or a letter and the value as the next argument; a flag is a long name or a
letter.  Whatever was read before, reading the arguments of one option comes to taking in that
option, at once or when the option after it comes.

Main definitions:

* `CommandLine.Occurrence` — one option as it is written;
* `CommandLine.absorb` — taking in one option.

Main results:

* `CommandLine.takeAll_arguments` — **the arguments of an option are read as that option**.
-/

import Offload.CommandLine.Arguments
import Offload.Proofs.Text.Ascii
import Mathlib.Data.List.TakeWhile

set_option relaxedAutoImplicit false
set_option autoImplicit false

namespace Offload

namespace CommandLine

open Text (ascii)

variable {p : Progress} {inv : Invocation} {arg value : Argument} {rest : List Argument}

/-! ### How options are written -/

/-- How an option with a value is written: in one argument with the long name, or in two with the
long name or the letter. -/
inductive Form where
  | joined
  | long
  | short
  deriving DecidableEq, Repr

/-- One option as it is written. -/
inductive Occurrence where
  /-- A flag, by its long name or by its letter. -/
  | flag (f : Flag) (spelled : Bool)
  /-- An option with a value. -/
  | value (o : ValueOption) (form : Form) (text : Argument)
  deriving DecidableEq, Repr

/-- The bytes of the long name of an option. -/
def nameBytes (n : OptionName) : List UInt8 := ascii n.long.toList

/-- The byte of the letter of an option. -/
def letterByte (n : OptionName) : UInt8 := UInt8.ofNat n.letter.toNat

/-- The argument that is the long name of an option. -/
def longArgument (n : OptionName) : Argument := minus :: minus :: nameBytes n

/-- The argument that is the letter of an option. -/
def letterArgument (n : OptionName) : Argument := [minus, letterByte n]

namespace Occurrence

/-- The option that is written. -/
def name : Occurrence → OptionName
  | .flag f _ => .flag f
  | .value o _ _ => .value o

/-- The arguments in which an option is written. -/
def arguments : Occurrence → List Argument
  | .flag f true => [longArgument (.flag f)]
  | .flag f false => [letterArgument (.flag f)]
  | .value o .joined text => [longArgument (.value o) ++ equals :: text]
  | .value o .long text => [longArgument (.value o), text]
  | .value o .short text => [letterArgument (.value o), text]

/-- A value that is an argument by itself does not start with a minus sign. -/
def Separable : Occurrence → Prop
  | .value _ .long text | .value _ .short text => text.head? ≠ some minus
  | _ => True

end Occurrence

/-- Takes in one option, without regard to how it is written. -/
def absorb (inv : Invocation) : Occurrence → Except Ending Invocation
  | .flag f _ =>
    if inv.gives (.flag f) then .error (.error (.repeated (.flag f))) else .ok (inv.setFlag f)
  | .value o _ text => takeValue inv o text

/-! ### Names -/

theorem equals_not_mem_nameBytes (n : OptionName) : equals ∉ nameBytes n := by
  revert n
  decide

theorem ofLong?_nameBytes (n : OptionName) :
    (Text.decodeUtf8? (nameBytes n)).bind OptionName.ofLong? = some n := by
  have hascii : ∀ n : OptionName, n.long.toList.all (·.toNat < 128) = true := by decide
  rw [nameBytes, Text.decodeUtf8?_ascii_toList (hascii n), Option.bind_some,
    OptionName.ofLong?_long]

theorem letters_cons (n : OptionName) (bytes : Argument) :
    letters (letterByte n :: bytes) =
      ((n.letter, bytes) :: (letters bytes).1, (letters bytes).2) := by
  have hascii : ∀ n, letterByte n < 0x80 := by decide
  have hchar : ∀ n, Char.ofNat (letterByte n).toNat = n.letter := by decide
  have hpiece : Text.firstPiece (letterByte n) bytes = (.char n.letter, 0) := by
    unfold Text.firstPiece
    rw [if_pos (hascii n), hchar]
  rw [letters, hpiece]
  rfl

theorem letterByte_ne_minus (n : OptionName) : letterByte n ≠ minus := by
  revert n
  decide

theorem splitEquals_name (n : OptionName) : splitEquals (nameBytes n) = (nameBytes n, none) := by
  have hname : ∀ b ∈ nameBytes n, (b != equals) = true := fun b hb =>
    bne_iff_ne.2 fun h => equals_not_mem_nameBytes n (h ▸ hb)
  rw [splitEquals, List.dropWhile_eq_nil_iff.2 hname]

theorem splitEquals_joined (n : OptionName) (text : Argument) :
    splitEquals (nameBytes n ++ equals :: text) = (nameBytes n, some text) := by
  have hname : ∀ b ∈ nameBytes n, (b != equals) = true := fun b hb =>
    bne_iff_ne.2 fun h => equals_not_mem_nameBytes n (h ▸ hb)
  rw [splitEquals, List.dropWhile_append_of_pos hname, List.takeWhile_append_of_pos hname]
  simp

/-! ### One argument -/

theorem takeArgument_long (p : Progress) (bytes : List UInt8) :
    takeArgument p (minus :: minus :: bytes) = takeLong p bytes := by
  rw [takeArgument, if_pos rfl, if_pos rfl]

theorem takeArgument_letter (p : Progress) (n : OptionName) :
    takeArgument p (letterArgument n) = takeLetters p [(n.letter, [])] [] := by
  rw [letterArgument, takeArgument, if_pos rfl, if_neg (letterByte_ne_minus n), letters_cons,
    letters]

/-- A flag is taken in by either name. -/
theorem takeArgument_flag (p : Progress) (f : Flag) :
    takeArgument p (longArgument (.flag f)) = takeFlag p f ∧
      takeArgument p (letterArgument (.flag f)) = takeFlag p f := by
  constructor
  · rw [longArgument, takeArgument_long, takeLong]
    simp only [splitEquals_name, ofLong?_nameBytes]
  · rw [takeArgument_letter, takeLetters]
    simp only [OptionName.ofLetter?_letter, takeLetters]
    cases takeFlag p f <;> rfl

/-- An option waits for its value after either name. -/
theorem takeArgument_open (p : Progress) (o : ValueOption) :
    takeArgument p (longArgument (.value o)) = takeOpen p o ∧
      takeArgument p (letterArgument (.value o)) = takeOpen p o := by
  constructor
  · rw [longArgument, takeArgument_long, takeLong]
    simp only [splitEquals_name, ofLong?_nameBytes]
  · rw [takeArgument_letter, takeLetters]
    simp only [OptionName.ofLetter?_letter, attachedValue]

theorem takeArgument_joined (p : Progress) (o : ValueOption) (text : Argument) :
    takeArgument p (longArgument (.value o) ++ equals :: text) = takeAttached p o text := by
  rw [longArgument, List.cons_append, List.cons_append, takeArgument_long, takeLong]
  simp only [splitEquals_joined, ofLong?_nameBytes]

/-! ### All arguments of an option -/

/-- Any argument but two minus signs is the value of the option before it, or an option itself. -/
theorem takeAll_cons (harg : arg ≠ [minus, minus]) (p : Progress) (rest : List Argument) :
    takeAll p (arg :: rest) =
      match p.pending, isValue arg with
      | some ⟨o, none⟩, true => takeAll ⟨p.given, some ⟨o, some arg⟩⟩ rest
      | _, _ =>
        match takeArgument p arg with
        | .error e => .error e
        | .ok p => takeAll p rest := by
  exact if_neg harg

/-- No option waits for its value. -/
def Progress.Closed (p : Progress) : Prop := ∀ o, p.pending ≠ some ⟨o, none⟩

/-- Nothing waits for its value once everything before is settled. -/
theorem Progress.closed_of_settle (hp : settle p = .ok inv) : p.Closed := by
  intro o hpending
  rw [settle, hpending] at hp
  cases hp

/-- If nothing waits for its value, the next argument is an option. -/
theorem takeAll_of_closed (hp : p.Closed) (harg : arg ≠ [minus, minus]) (rest : List Argument) :
    takeAll p (arg :: rest) =
      match takeArgument p arg with
      | .error e => .error e
      | .ok p => takeAll p rest := by
  rw [takeAll_cons harg]
  split
  · next hpending _ => exact absurd hpending (hp _)
  · rfl

theorem isValue_of_head? (h : value.head? ≠ some minus) : isValue value = true :=
  match value with
  | [] | [_] => rfl
  | _ :: _ :: _ => bne_iff_ne.2 fun hminus => h (congrArg some hminus)

/-- An option that waits for its value takes the next argument, if that can be one. -/
theorem takeAll_value (o : ValueOption) (hvalue : isValue value = true) (rest : List Argument) :
    takeAll ⟨inv, some ⟨o, none⟩⟩ (value :: rest) = takeAll ⟨inv, some ⟨o, some value⟩⟩ rest := by
  have hend : value ≠ [minus, minus] := by
    rintro rfl
    exact absurd hvalue (by decide)
  rw [takeAll_cons hend, hvalue]

/-- An option that is taken in at once. -/
theorem takeAll_at_once {occ : Occurrence} (hp : settle p = .ok inv) (harg : arg ≠ [minus, minus])
    (htake : takeArgument p arg = (absorb inv occ).map fun inv => ⟨inv, none⟩) :
    (∃ p', settle p' = absorb inv occ ∧ takeAll p (arg :: rest) = takeAll p' rest) ∨
      ∃ e, absorb inv occ = .error e ∧ takeAll p (arg :: rest) = .error e := by
  rw [takeAll_of_closed (Progress.closed_of_settle hp) harg, htake]
  cases absorb inv occ with
  | error e => exact Or.inr ⟨e, rfl, rfl⟩
  | ok inv' => exact Or.inl ⟨⟨inv', none⟩, rfl, rfl⟩

/-- An option that is taken in when the next one comes. -/
theorem takeAll_later {o : ValueOption} (hp : settle p = .ok inv) (harg : arg ≠ [minus, minus])
    (htake : takeArgument p arg = takeOpen p o) (hvalue : value.head? ≠ some minus) :
    ∃ p', settle p' = takeValue inv o value ∧
      takeAll p (arg :: value :: rest) = takeAll p' rest := by
  refine ⟨⟨inv, some ⟨o, some value⟩⟩, rfl, ?_⟩
  rw [takeAll_of_closed (Progress.closed_of_settle hp) harg, htake, takeOpen, hp]
  exact takeAll_value o (isValue_of_head? hvalue) rest

theorem longArgument_ne (n : OptionName) (tail : List UInt8) :
    longArgument n ++ tail ≠ [minus, minus] := by
  have hname : ∀ n, nameBytes n ≠ [] := by decide
  simp [longArgument, hname]

theorem longArgument_ne_end (n : OptionName) : longArgument n ≠ [minus, minus] :=
  List.append_nil (longArgument n) ▸ longArgument_ne n []

theorem letterArgument_ne (n : OptionName) : letterArgument n ≠ [minus, minus] := by
  simp [letterArgument, letterByte_ne_minus n]

/-- **The arguments of an option are read as that option**: it is taken in at once or, if its value
is an argument by itself, as soon as everything before the next option is settled. -/
theorem takeAll_arguments {occ : Occurrence} (hocc : occ.Separable) (hp : settle p = .ok inv)
    (rest : List Argument) :
    (∃ p', settle p' = absorb inv occ ∧
        takeAll p (occ.arguments ++ rest) = takeAll p' rest) ∨
      ∃ e, absorb inv occ = .error e ∧ takeAll p (occ.arguments ++ rest) = .error e := by
  cases occ with
  | flag f spelled =>
      have hflag : takeFlag p f = (absorb inv (.flag f spelled)).map fun inv => ⟨inv, none⟩ := by
        simp only [takeFlag, hp, absorb]
        split <;> rfl
      cases spelled with
      | true =>
          exact takeAll_at_once hp (longArgument_ne_end _) ((takeArgument_flag p f).1.trans hflag)
      | false =>
          exact takeAll_at_once hp (letterArgument_ne _) ((takeArgument_flag p f).2.trans hflag)
  | value o form text =>
      cases form with
      | joined =>
          refine takeAll_at_once hp (longArgument_ne _ _) ((takeArgument_joined p o text).trans ?_)
          simp only [takeAttached, hp, absorb]
          cases takeValue inv o text <;> rfl
      | long =>
          exact Or.inl (takeAll_later hp (longArgument_ne_end _) (takeArgument_open p o).1 hocc)
      | short =>
          exact Or.inl (takeAll_later hp (letterArgument_ne _) (takeArgument_open p o).2 hocc)

end CommandLine

end Offload
