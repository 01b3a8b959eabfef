/-
**Text without the control sequences of a terminal.**

Colours, titles and the like are asked of a terminal by sequences of characters that begin with an
escape character.  Where a text does not go to a terminal they are left out, and so are the control
characters that neither end a line nor leave a gap.  A sequence that is cut short swallows what
follows, up to the character that ends sequences of its kind.  A gap in a sequence is shown, and so
is what follows it, up to a control character: there the sequence goes on.

Main definitions:

* `Text.Reading` — where a reader stands in a sequence, if in any; `Text.Reading.next` — one
  character that is not passed over;
* `Text.Reader` — a reader, which may pass over what is shown; `Text.Reader.next` — one character;
* `Text.unstyledFrom`, `Text.unstyled` — what is left of a text.

Main results:

* `Text.unstyledFrom_append` — a text is read piece by piece;
* `Text.unstyled_eq_self` — a text that holds nothing but characters to be shown is kept.
-/

set_option relaxedAutoImplicit false
set_option autoImplicit false

namespace Offload.Text

/-- Where a reader stands. -/
inductive Reading where
  /-- Outside every sequence. -/
  | plain
  /-- After the escape character. -/
  | escape
  /-- In a sequence whose kind is settled, before its last character. -/
  | escapeTail
  /-- In a control sequence, which `[` opens. -/
  | control
  /-- At the head of a device string, which `P` opens: nothing was read, parameters were read, or
  what follows the parameters was. -/
  | deviceHead
  | deviceParameters
  | deviceTail
  /-- In the body of a string of any kind but the next. -/
  | body
  /-- In a command to the system, which `]` opens. -/
  | command
  deriving DecidableEq, Repr

/-- Does the control character end a line or leave a gap? -/
def isGap (c : Char) : Bool := c = '\t' || c = '\n' || c = '\x0c' || c = '\r'

/-- Is a character shown that stands outside every sequence? -/
def isShown (c : Char) : Bool := isGap c || (' ' ≤ c && c ≠ '\x7f')

namespace Reading

/-- May the character stand before the last one of a sequence? -/
def isInner (c : Char) : Bool := ' ' ≤ c && c ≤ '/'

/-- Is the character a parameter of a sequence? -/
def isParameter (c : Char) : Bool := '0' ≤ c && c ≤ '?'

/-- Is the character one that ends a control sequence? -/
def isLast (c : Char) : Bool := '@' ≤ c && c ≤ '~'

/-- The sequence that a character after the escape character begins. -/
def opened (c : Char) : Reading :=
  if c = '[' then control
  else if c = ']' then command
  else if c = 'P' then deviceHead
  else if c = 'X' ∨ c = '^' ∨ c = '_' then body
  else if isInner c then escapeTail
  else if isParameter c || isLast c then plain
  else escape

/-- Does the character hold the byte that ends a string? -/
def endsString (c : Char) : Bool := (String.utf8EncodeChar c).contains 0x9c

/-- In the head of a device string: the string goes on to its body after a last character, and
after what cannot stand where it stands. -/
def inDevice (here : Reading) (c : Char) : Reading :=
  if isLast c then body
  else if isInner c then deviceTail
  else if isParameter c then
    if here = deviceTail ∨ (here = deviceParameters ∧ '<' ≤ c) then body else deviceParameters
  else here

/-- One character: where the reader stands after it, and whether it is shown. -/
def next (r : Reading) (c : Char) : Reading × Bool :=
  if c = '\x18' ∨ c = '\x1a' then (plain, false)
  else if c = '\x1b' then (escape, false)
  else
    match r with
    | plain => (plain, isShown c)
    | escape => if isGap c then (escape, true) else (opened c, false)
    | escapeTail =>
      if isGap c then (escapeTail, true)
      else (if isParameter c || isLast c then plain else escapeTail, false)
    | control => if isGap c then (control, true) else (if isLast c then plain else control, false)
    | body => (if endsString c then plain else body, false)
    | command => (if c = '\x07' then plain else command, false)
    | here => (inDevice here c, false)

end Reading

/-- A reader: where it stands, and whether the last character was shown. -/
structure Reader where
  reading : Reading
  showing : Bool
  deriving DecidableEq, Repr

namespace Reader

/-- The reader at the beginning of a text. -/
def initial : Reader := ⟨.plain, false⟩

/-- One character: the reader after it, and whether it is shown.  Behind a character that was shown
whatever may be shown is passed over, and the reader stays in its sequence, which only a character
beyond ASCII ends. -/
def next (r : Reader) (c : Char) : Reader × Bool :=
  if r.showing && isShown c then (⟨if c ≤ '\x7f' then r.reading else .plain, true⟩, true)
  else
    let (reading, shown) := r.reading.next c
    (⟨reading, shown⟩, shown)

/-- The reader after a text. -/
def after (r : Reader) (cs : List Char) : Reader := cs.foldl (fun r c => (r.next c).1) r

end Reader

/-- What is left of a text that a reader comes to. -/
def unstyledFrom (r : Reader) : List Char → List Char
  | [] => []
  | c :: rest =>
    match r.next c with
    | (r, true) => c :: unstyledFrom r rest
    | (r, false) => unstyledFrom r rest

theorem unstyledFrom_append (r : Reader) (first rest : List Char) :
    unstyledFrom r (first ++ rest) = unstyledFrom r first ++ unstyledFrom (r.after first) rest := by
  induction first generalizing r with
  | nil => rfl
  | cons c first ih =>
      rcases h : r.next c with ⟨s, _ | _⟩ <;>
        simp only [List.cons_append, unstyledFrom, Reader.after, List.foldl_cons, h, ih]

/-- What is left of a text. -/
def unstyled (cs : List Char) : List Char := unstyledFrom .initial cs

theorem Reading.next_plain {c : Char} (h : isShown c = true) :
    Reading.plain.next c = (.plain, true) := by
  have h18 : c ≠ '\x18' := by rintro rfl; simp [isShown, isGap] at h
  have h1a : c ≠ '\x1a' := by rintro rfl; simp [isShown, isGap] at h
  have h1b : c ≠ '\x1b' := by rintro rfl; simp [isShown, isGap] at h
  simp [Reading.next, h18, h1a, h1b, h]

/-- Outside every sequence a reader stays there as long as characters are shown. -/
theorem Reader.next_plain {c : Char} (showing : Bool) (h : isShown c = true) :
    Reader.next ⟨.plain, showing⟩ c = (⟨.plain, true⟩, true) := by
  cases showing <;> simp [Reader.next, h, Reading.next_plain h]

/-- Outside every sequence nothing is left out that may be shown. -/
theorem unstyledFrom_plain (showing : Bool) {cs : List Char}
    (h : ∀ c ∈ cs, isShown c = true) : unstyledFrom ⟨.plain, showing⟩ cs = cs := by
  induction cs generalizing showing with
  | nil => rfl
  | cons c cs ih =>
      have hc := Reader.next_plain showing (h c (List.mem_cons_self ..))
      simp only [unstyledFrom, hc, ih true fun d hd => h d (List.mem_cons_of_mem _ hd)]

/-- A text that holds nothing but characters to be shown is kept. -/
theorem unstyled_eq_self {cs : List Char} (h : ∀ c ∈ cs, isShown c = true) : unstyled cs = cs :=
  unstyledFrom_plain false h

end Offload.Text
