/-
**The list of the parameters tells the job.**

The program prints the parameters of its client as a list: a heading, and a line each for the two
files, the two spaces with their addresses, and the size.  The layout is stated here by itself,
without the functions that write it: a number is shown by the digits that are worth it, and a space
by its number and its name on the command line.  There is only one list of given parameters, and
whoever finds parameters that a list can be of knows the job.

The names of files may hold anything, line breaks and whole lists included, and are not always told
apart.  What the job is made from stands behind them, on the last five lines, and these hold no
break.

Main definitions:

* `AddressSpace.ShownAs` — how a space is shown;
* `Listing` — what stands behind the labels of a list; `Listing.Shows` — of which parameters;
* `Parameters.ListedIn` — a text is the list of the parameters.

Main results:

* `Parameters.listedIn_iff` — **the text that is written is the list, and no other text is**;
* `Parameters.ListedIn.request_eq` — **parameters with the same list ask for the same job**.
-/

import Offload.Client.Options
import Offload.Proofs.Numeral.Hexadecimal

set_option relaxedAutoImplicit false
set_option autoImplicit false

namespace Offload

open Numeral (WritesPadded writesPadded_paddedHexChars)

variable {space space' : AddressSpace} {p q : Parameters} {block : String}
  {shown shown' : List Char}

/-! ### Spaces -/

/-- A space is shown by the digits of its number and by the name that the command line knows it
by. -/
def AddressSpace.ShownAs (space : AddressSpace) (text : List Char) : Prop :=
  ∃ digits name, text = digits ++ ' ' :: name ∧ WritesPadded 1 digits space.code.toNat ∧
    AddressSpace.ofName? (String.ofList name) = some space

theorem AddressSpace.shownAs_label (space : AddressSpace) : space.ShownAs space.label.toList := by
  have hdigits : Text.paddedHexChars 1 space.code.toNat = Text.hexChars space.code.toNat := by
    cases space <;> rfl
  refine ⟨_, space.name.toList, ?_, writesPadded_paddedHexChars (by decide) _, ?_⟩
  · rw [hdigits]
    simp [label, Text.hex]
  · rw [String.ofList_toList]
    exact ofName?_eq_some_iff.2 rfl

/-- The name by which the command line knows a space has no blank and no line break. -/
theorem AddressSpace.unspaced_of_ofName? {name : List Char}
    (h : ofName? (String.ofList name) = some space) : ' ' ∉ name ∧ '\n' ∉ name := by
  rw [← String.toList_ofList (l := name), ofName?_eq_some_iff.1 h]
  cases space <;> decide

theorem AddressSpace.ShownAs.break_not_mem (h : space.ShownAs shown) : '\n' ∉ shown := by
  obtain ⟨digits, name, rfl, hdigits, hname⟩ := h
  have hbreak := hdigits.not_mem (c := '\n') (by decide)
  simp [hbreak, (unspaced_of_ofName? hname).2]

/-- A space is shown in one way only. -/
theorem AddressSpace.ShownAs.unique (h : space.ShownAs shown) (h' : space.ShownAs shown') :
    shown = shown' := by
  obtain ⟨digits, name, rfl, hdigits, hname⟩ := h
  obtain ⟨digits', name', rfl, hdigits', hname'⟩ := h'
  have hsame := (ofName?_eq_some_iff.1 hname).trans (ofName?_eq_some_iff.1 hname').symm
  rw [hdigits.unique hdigits', String.ofList_inj.1 hsame]

/-- No text shows two spaces. -/
theorem AddressSpace.ShownAs.space_eq (h : space.ShownAs shown) (h' : space'.ShownAs shown) :
    space = space' := by
  obtain ⟨digits, name, rfl, -, hname⟩ := h
  obtain ⟨digits', name', hsame, hdigits', hname'⟩ := h'
  obtain ⟨-, -, rfl⟩ := (List.append_cons_inj_of_notMem (hdigits'.not_mem (by decide))
    (unspaced_of_ofName? hname').1).1 hsame.symm
  exact Option.some_inj.1 (hname.symm.trans hname')

/-! ### The layout -/

/-- What stands on the lines of a list of parameters, behind the labels. -/
structure Listing where
  fileIn : List Char
  fileOut : List Char
  spaceIn : List Char
  addrIn : List Char
  spaceOut : List Char
  addrOut : List Char
  size : List Char

namespace Listing

/-- The lines of the files. -/
def fileLines (l : Listing) : List (List Char) :=
  ["  input:       ".toList ++ l.fileIn,
   "  output:      ".toList ++ l.fileOut]

/-- The lines of what the job is made from. -/
def jobLines (l : Listing) : List (List Char) :=
  ["  type_in:     ".toList ++ l.spaceIn,
   "  addr_in:     ".toList ++ l.addrIn,
   "  type_out:    ".toList ++ l.spaceOut,
   "  addr_out:    ".toList ++ l.addrOut,
   "  size_in/out: ".toList ++ l.size]

/-- The whole list: a heading, and the lines below it. -/
def text (l : Listing) : List Char :=
  "PARAMETERS:".toList ++ (l.fileLines ++ l.jobLines).flatMap ('\n' :: ·)

/-- The name of a file, or that there is none. -/
def ShowsFile : Option Path → List Char → Prop
  | some path, text => text = path.shown.toList
  | none, text => text = "unknown".toList

/-- What stands on the lines is what the parameters are. -/
structure Shows (l : Listing) (p : Parameters) : Prop where
  fileIn : ShowsFile p.input l.fileIn
  fileOut : ShowsFile p.output l.fileOut
  spaceIn : p.spaceIn.ShownAs l.spaceIn
  addrIn : WritesPadded 16 l.addrIn p.addrIn.toNat
  spaceOut : p.spaceOut.ShownAs l.spaceOut
  addrOut : WritesPadded 16 l.addrOut p.addrOut.toNat
  size : WritesPadded 8 l.size p.size

end Listing

/-- The text is the list of the parameters. -/
def Parameters.ListedIn (p : Parameters) (block : String) : Prop :=
  ∃ l : Listing, l.Shows p ∧ block.toList = l.text

namespace Listing

variable {l l' : Listing}

/-- What stands on the lines of the list that is written. -/
def of (p : Parameters) : Listing where
  fileIn := (Parameters.fileName p.input).toList
  fileOut := (Parameters.fileName p.output).toList
  spaceIn := p.spaceIn.label.toList
  addrIn := Text.paddedHexChars 16 p.addrIn.toNat
  spaceOut := p.spaceOut.label.toList
  addrOut := Text.paddedHexChars 16 p.addrOut.toNat
  size := Text.paddedHexChars 8 p.size

theorem showsFile_fileName (path : Option Path) :
    ShowsFile path (Parameters.fileName path).toList := by
  cases path <;> rfl

theorem shows_of (p : Parameters) : (of p).Shows p where
  fileIn := showsFile_fileName p.input
  fileOut := showsFile_fileName p.output
  spaceIn := p.spaceIn.shownAs_label
  addrIn := writesPadded_paddedHexChars (by decide) _
  spaceOut := p.spaceOut.shownAs_label
  addrOut := writesPadded_paddedHexChars (by decide) _
  size := writesPadded_paddedHexChars (by decide) _

/-- A text of several lines is the first one and what stands below it. -/
theorem intercalate_break (line : List Char) (lines : List (List Char)) :
    ['\n'].intercalate (line :: lines) = line ++ lines.flatMap ('\n' :: ·) := by
  induction lines generalizing line with
  | nil => simp [List.intercalate]
  | cons next lines ih =>
      rw [List.intercalate_cons_cons, ih, List.flatMap_cons, List.append_assoc]
      rfl

theorem text_of (p : Parameters) : p.text.toList = (of p).text := by
  have hlines : p.lines.map String.toList =
      "PARAMETERS:".toList :: ((of p).fileLines ++ (of p).jobLines) := by
    simp only [Parameters.lines, List.map_cons, List.map_nil, String.toList_append,
      Text.paddedHex, String.toList_ofList]
    rfl
  have hbreak : "\n".toList = ['\n'] := by decide
  rw [Parameters.text, String.toList_intercalate, hlines, hbreak]
  exact intercalate_break _ _

theorem ShowsFile.unique {path : Option Path} {text text' : List Char} (h : ShowsFile path text)
    (h' : ShowsFile path text') : text = text' := by
  cases path <;> exact h.trans h'.symm

/-- Parameters are shown in one way only. -/
theorem Shows.unique (h : l.Shows p) (h' : l'.Shows p) : l = l' := by
  obtain ⟨fileIn, fileOut, spaceIn, addrIn, spaceOut, addrOut, size⟩ := l
  obtain ⟨fileIn', fileOut', spaceIn', addrIn', spaceOut', addrOut', size'⟩ := l'
  obtain rfl := h.fileIn.unique h'.fileIn
  obtain rfl := h.fileOut.unique h'.fileOut
  obtain rfl := h.spaceIn.unique h'.spaceIn
  obtain rfl := h.addrIn.unique h'.addrIn
  obtain rfl := h.spaceOut.unique h'.spaceOut
  obtain rfl := h.addrOut.unique h'.addrOut
  obtain rfl := h.size.unique h'.size
  rfl

/-! ### Reading from the end -/

/-- The last line of a text is what stands behind its last break. -/
theorem eq_of_last_line {above above' line line' : List Char} (hline : '\n' ∉ line)
    (hline' : '\n' ∉ line') (h : above ++ '\n' :: line = above' ++ '\n' :: line') :
    above = above' ∧ line = line' := by
  rcases List.append_eq_append_iff.1 h with ⟨rest, rfl, hrest⟩ | ⟨rest, rfl, hrest⟩
  · cases rest with
    | nil => exact ⟨(List.append_nil _).symm, (List.cons.inj hrest).2⟩
    | cons c rest => exact absurd ((List.cons.inj hrest).2 ▸ by simp) hline
  · cases rest with
    | nil => exact ⟨List.append_nil _, ((List.cons.inj hrest).2).symm⟩
    | cons c rest => exact absurd ((List.cons.inj hrest).2 ▸ by simp) hline'

/-- **The last lines of a text are read from its end**, whatever stands above them. -/
theorem eq_of_last_lines {above above' : List Char} {lines lines' : List (List Char)}
    (hlength : lines.length = lines'.length) (hlines : ∀ line ∈ lines, '\n' ∉ line)
    (hlines' : ∀ line ∈ lines', '\n' ∉ line)
    (h : above ++ lines.flatMap ('\n' :: ·) = above' ++ lines'.flatMap ('\n' :: ·)) :
    lines = lines' := by
  induction lines using List.reverseRecOn generalizing lines' with
  | nil => exact (List.length_eq_zero_iff.1 hlength.symm).symm
  | append_singleton lines line ih =>
      obtain ⟨lines', line', rfl⟩ : ∃ init last, lines' = init ++ [last] := by
        rw [List.length_append, List.length_singleton] at hlength
        exact ⟨_, _, (List.dropLast_append_getLast (List.ne_nil_of_length_pos (by omega))).symm⟩
      simp only [List.flatMap_append, List.flatMap_singleton, ← List.append_assoc] at h
      obtain ⟨habove, hline⟩ := eq_of_last_line (hlines line (by simp)) (hlines' line' (by simp)) h
      have hinit := ih (by simpa using hlength) (fun x hx => hlines x (by simp [hx]))
        (fun x hx => hlines' x (by simp [hx])) habove
      rw [hinit, hline]

/-- The lines of what the job is made from hold no break. -/
theorem Shows.unbroken (h : l.Shows p) : ∀ line ∈ l.jobLines, '\n' ∉ line := by
  have hnumber {width n : Nat} {digits : List Char} (hdigits : WritesPadded width digits n) :
      '\n' ∉ digits := hdigits.not_mem (by decide)
  intro line hline
  simp only [jobLines, List.mem_cons, List.not_mem_nil, or_false] at hline
  rcases hline with rfl | rfl | rfl | rfl | rfl
  · simp [h.spaceIn.break_not_mem]
  · simp [hnumber h.addrIn]
  · simp [h.spaceOut.break_not_mem]
  · simp [hnumber h.addrOut]
  · simp [hnumber h.size]

/-- The lines of what the job is made from are the last ones. -/
theorem text_eq (l : Listing) :
    l.text = "PARAMETERS:".toList ++ l.fileLines.flatMap ('\n' :: ·) ++
      l.jobLines.flatMap ('\n' :: ·) := by
  have hlines : (l.fileLines ++ l.jobLines).flatMap ('\n' :: ·) =
      l.fileLines.flatMap ('\n' :: ·) ++ l.jobLines.flatMap ('\n' :: ·) := List.flatMap_append
  exact (congrArg ("PARAMETERS:".toList ++ ·) hlines).trans (List.append_assoc _ _ _).symm

/-- The labels are the same on all lists. -/
theorem values_eq (h : l.jobLines = l'.jobLines) :
    l.spaceIn = l'.spaceIn ∧ l.addrIn = l'.addrIn ∧ l.spaceOut = l'.spaceOut ∧
      l.addrOut = l'.addrOut ∧ l.size = l'.size := by
  rw [jobLines, jobLines] at h
  injection h with hspaceIn h
  injection h with haddrIn h
  injection h with hspaceOut h
  injection h with haddrOut h
  injection h with hsize
  exact ⟨List.append_cancel_left hspaceIn, List.append_cancel_left haddrIn,
    List.append_cancel_left hspaceOut, List.append_cancel_left haddrOut,
    List.append_cancel_left hsize⟩

/-- What is shown alike, behind the names of the files, asks for the same job. -/
theorem Shows.request_eq (h : l.Shows p) (h' : l'.Shows q) (htext : l.text = l'.text) :
    p.request = q.request := by
  rw [text_eq, text_eq] at htext
  have hlines : l.jobLines = l'.jobLines := eq_of_last_lines rfl h.unbroken h'.unbroken htext
  obtain ⟨hspaceIn, haddrIn, hspaceOut, haddrOut, hsize⟩ := values_eq hlines
  have hnumber {width n n' : Nat} {digits digits' : List Char} (hsame : digits = digits')
      (hn : WritesPadded width digits n) (hn' : WritesPadded width digits' n') : n = n' :=
    hn.writes.value.symm.trans (hsame ▸ hn'.writes.value)
  have hreadIn := UInt64.toNat_inj.1 (hnumber haddrIn h.addrIn h'.addrIn)
  have hreadOut := UInt64.toNat_inj.1 (hnumber haddrOut h.addrOut h'.addrOut)
  have hin : p.spaceIn = q.spaceIn := h.spaceIn.space_eq (hspaceIn ▸ h'.spaceIn)
  have hout : p.spaceOut = q.spaceOut := h.spaceOut.space_eq (hspaceOut ▸ h'.spaceOut)
  rw [Parameters.request, Parameters.request, hin, hout, hreadIn, hreadOut,
    hnumber hsize h.size h'.size]

end Listing

namespace Parameters

/-- **The text that is written is the list of the parameters, and no other text is.** -/
theorem listedIn_iff : p.ListedIn block ↔ block = p.text := by
  constructor
  · rintro ⟨l, hshows, hblock⟩
    rw [← String.toList_inj, hblock, Listing.text_of, hshows.unique (Listing.shows_of p)]
  · rintro rfl
    exact ⟨_, Listing.shows_of p, Listing.text_of p⟩

/-- The list of parameters that no file belongs to. -/
example :
    (⟨none, none, .cardDram, 0x10, .hostDram, 0xabcd, 0x20⟩ : Parameters).ListedIn
      ("PARAMETERS:\n  input:       unknown\n  output:      unknown\n" ++
        "  type_in:     1 CARD_DRAM\n  addr_in:     0000000000000010\n" ++
        "  type_out:    0 HOST_DRAM\n  addr_out:    000000000000abcd\n" ++
        "  size_in/out: 00000020") :=
  listedIn_iff.2 (by decide +kernel)

/-- **Parameters with the same list ask for the same job.** -/
theorem ListedIn.request_eq (h : p.ListedIn block) (h' : q.ListedIn block) :
    p.request = q.request := by
  obtain ⟨l, hshows, hblock⟩ := h
  obtain ⟨l', hshows', hblock'⟩ := h'
  exact hshows.request_eq hshows' (hblock.symm.trans hblock')

end Parameters

end Offload
