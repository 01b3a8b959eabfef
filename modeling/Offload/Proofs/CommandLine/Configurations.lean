/-
**Every configuration can be written, and is read as what it says.**

A configuration is written by its options, each once, in any order, each in any of its forms, with
the numbers in any of their radices.  However that is done, reading it gives back the configuration.
What was read after some of the options is the configuration as far as these options say it,
whatever their order was; that carries the induction.

Main definitions:

* `Invocation.adopt` — taking over what another invocation has for one option;
* `CommandLine.Denotes` — the text of a value stands for what a configuration has;
* `CommandLine.Expressible` — no path is empty and all numbers have 64 bits;
* `CommandLine.Tells`, `CommandLine.Expresses` — options say a part, or the whole, of a configuration.

Main results:

* `CommandLine.absorb_of_tells` — an option of a configuration is taken in;
* `CommandLine.takeAll_of_tells` — so is any number of them;
* `CommandLine.exists_expressing` — every configuration can be written;
* `CommandLine.parse_of_expresses` — **what is written is read as what it says, in any order**.
-/

import Offload.Program
import Offload.Proofs.CommandLine.Written
import Offload.Proofs.Numeral.Hexadecimal
import Offload.Proofs.Numeral.Size

set_option relaxedAutoImplicit false
set_option autoImplicit false

namespace Offload

namespace Invocation

variable {inv inv' : Invocation} {n n' : OptionName}

/-! ### One option of a configuration -/

/-- What there can be for one option. -/
inductive Field where
  | card (n : Option UInt32)
  | path (path : Option Path)
  | space (space : Option AddressSpace)
  | addr (addr : Option UInt64)
  | number (n : Option Nat)
  | flag (on : Bool)
  | nothing
  deriving DecidableEq

/-- What the invocation has for an option. -/
def field (inv : Invocation) : OptionName → Field
  | .value .card => .card inv.card
  | .value .input => .path inv.input
  | .value .output => .path inv.output
  | .value .sourceSpace => .space inv.sourceSpace
  | .value .sourceAddr => .addr inv.sourceAddr
  | .value .targetSpace => .space inv.targetSpace
  | .value .targetAddr => .addr inv.targetAddr
  | .value .size => .number inv.size
  | .value .timeout => .number inv.timeout
  | .flag .verify => .flag inv.verify
  | .flag .noIrq => .flag inv.noIrq
  | .flag .verbose => .flag inv.verbose
  | .inquiry _ => .nothing

/-- The second invocation, with what the first one has for an option. -/
def adopt (inv inv' : Invocation) : OptionName → Invocation
  | .value .card => { inv' with card := inv.card }
  | .value .input => { inv' with input := inv.input }
  | .value .output => { inv' with output := inv.output }
  | .value .sourceSpace => { inv' with sourceSpace := inv.sourceSpace }
  | .value .sourceAddr => { inv' with sourceAddr := inv.sourceAddr }
  | .value .targetSpace => { inv' with targetSpace := inv.targetSpace }
  | .value .targetAddr => { inv' with targetAddr := inv.targetAddr }
  | .value .size => { inv' with size := inv.size }
  | .value .timeout => { inv' with timeout := inv.timeout }
  | .flag .verify => { inv' with verify := inv.verify }
  | .flag .noIrq => { inv' with noIrq := inv.noIrq }
  | .flag .verbose => { inv' with verbose := inv.verbose }
  | .inquiry _ => inv'

/-- The fields make up the invocation. -/
theorem ext_field (h : ∀ n, inv.field n = inv'.field n) : inv = inv' := by
  obtain ⟨c, i, o, A, a, D, d, s, t, X, N, v⟩ := inv
  obtain ⟨c', i', o', A', a', D', d', s', t', X', N', v'⟩ := inv'
  cases h (.value .card)
  cases h (.value .input)
  cases h (.value .output)
  cases h (.value .sourceSpace)
  cases h (.value .sourceAddr)
  cases h (.value .targetSpace)
  cases h (.value .targetAddr)
  cases h (.value .size)
  cases h (.value .timeout)
  cases h (.flag .verify)
  cases h (.flag .noIrq)
  cases h (.flag .verbose)
  rfl

theorem field_adopt_self (inv inv' : Invocation) (n : OptionName) :
    (inv.adopt inv' n).field n = inv.field n := by
  rcases n with o | f | i
  · cases o <;> rfl
  · cases f <;> rfl
  · rfl

theorem field_adopt_of_ne (inv inv' : Invocation) (h : n' ≠ n) :
    (inv.adopt inv' n).field n' = inv'.field n' := by
  rcases n with o | f | i
  · rcases n' with o' | f' | i'
    · cases o <;> cases o' <;> first | rfl | exact absurd rfl h
    · cases o <;> cases f' <;> rfl
    · cases o <;> rfl
  · rcases n' with o' | f' | i'
    · cases f <;> cases o' <;> rfl
    · cases f <;> cases f' <;> first | rfl | exact absurd rfl h
    · cases f <;> rfl
  · rfl

/-- Is there anything for the option? -/
def Field.isGiven : Field → Bool
  | .card n => n.isSome
  | .path q => q.isSome
  | .space s => s.isSome
  | .addr a => a.isSome
  | .number n => n.isSome
  | .flag on => on
  | .nothing => false

theorem gives_eq (inv : Invocation) (n : OptionName) : inv.gives n = (inv.field n).isGiven := by
  rcases n with o | f | i
  · cases o <;> rfl
  · cases f <;> rfl
  · rfl

theorem gives_none (n : OptionName) : none.gives n = false := by
  revert n
  decide

/-- What is not given is as in the command line that gives nothing. -/
theorem field_of_not_gives (h : inv.gives n = false) : inv.field n = none.field n := by
  rcases n with o | f | i
  · cases o <;> exact congrArg _ (Option.isNone_iff_eq_none.1 (Option.isSome_eq_false_iff.1 h))
  · cases f <;> exact congrArg _ h
  · rfl

theorem gives_adopt_of_ne (inv inv' : Invocation) (h : n' ≠ n) :
    (inv.adopt inv' n).gives n' = inv'.gives n' := by
  rw [gives_eq, gives_eq, field_adopt_of_ne inv inv' h]

/-- Adopting several fields, one after another. -/
theorem field_foldl_adopt (inv inv' : Invocation) (names : List OptionName) (n : OptionName) :
    (names.foldl (adopt inv) inv').field n =
      if n ∈ names then inv.field n else inv'.field n := by
  induction names generalizing inv' with
  | nil => rfl
  | cons name names ih =>
      rw [List.foldl_cons, ih]
      by_cases hn : n = name
      · subst hn
        simp [field_adopt_self]
      · simp [hn, field_adopt_of_ne]

/-- **Adopting all that an invocation gives makes up the invocation**, in any order. -/
theorem foldl_adopt_eq {names : List OptionName} (h : ∀ n, n ∈ names ↔ inv.gives n = true) :
    names.foldl (adopt inv) none = inv := by
  refine ext_field fun n => ?_
  rw [field_foldl_adopt]
  split
  · rfl
  · next hn => exact (field_of_not_gives (Bool.eq_false_iff.2 (mt (h n).2 hn))).symm

end Invocation

namespace CommandLine

open Text (ascii)
open Invocation (adopt)

variable {inv inv' : Invocation} {o : ValueOption} {text : Argument} {occ : Occurrence}
  {occs : List Occurrence} {p : Progress}

/-! ### What is written -/

/-- The bytes spell an unsigned number as C writes it. -/
def Spells (text : Argument) (n : Nat) : Prop := ∃ cs, text = ascii cs ∧ Numeral.Literal cs n

/-- The bytes are the name of an address space. -/
def Names (text : Argument) (space : AddressSpace) : Prop := text = ascii space.name.toList

/-- The text stands for what the configuration has for an option. -/
def Denotes (inv : Invocation) (text : Argument) : ValueOption → Prop
  | .card => ∃ n, inv.card = some n ∧ Spells text n.toNat
  | .input => inv.input = some ⟨text⟩
  | .output => inv.output = some ⟨text⟩
  | .sourceSpace => ∃ space, inv.sourceSpace = some space ∧ Names text space
  | .sourceAddr => ∃ n, inv.sourceAddr = some n ∧ Spells text n.toNat
  | .targetSpace => ∃ space, inv.targetSpace = some space ∧ Names text space
  | .targetAddr => ∃ n, inv.targetAddr = some n ∧ Spells text n.toNat
  | .size => ∃ n, inv.size = some n ∧ Spells text n
  | .timeout => ∃ n, inv.timeout = some n ∧ Spells text n

/-- A configuration that there is a way to write: no path is empty, and all numbers have 64 bits. -/
structure Expressible (inv : Invocation) : Prop where
  input : ∀ path, inv.input = some path → path.bytes ≠ []
  output : ∀ path, inv.output = some path → path.bytes ≠ []
  size : ∀ n, inv.size = some n → n < 2 ^ 64
  timeout : ∀ n, inv.timeout = some n → n < 2 ^ 64

/-- An option of a configuration, written so that it can be read: its value stands for what the
configuration has. -/
structure Occurrence.Tells (inv : Invocation) (occ : Occurrence) : Prop where
  given : inv.gives occ.name = true
  denotes : ∀ o form text, occ = .value o form text → Denotes inv text o
  separable : occ.Separable

/-- Some options of a configuration, each written once. -/
structure Tells (inv : Invocation) (occs : List Occurrence) : Prop where
  once : (occs.map Occurrence.name).Nodup
  each : ∀ occ ∈ occs, occ.Tells inv

/-- All options of a configuration, each written once. -/
structure Expresses (inv : Invocation) (occs : List Occurrence) : Prop extends Tells inv occs where
  complete : ∀ n, inv.gives n = true → n ∈ occs.map Occurrence.name

/-! ### Reading a value -/

theorem number_of_spells {n : Nat} (h : Spells text n) (hn : n < 2 ^ 64) :
    ∃ s, Text.decodeUtf8? text = some s ∧ Invocation.number s = .ok n ∧
      Invocation.sizeOf s = .ok n := by
  obtain ⟨cs, rfl, hcs⟩ := h
  have hnumber : Numeral.number (String.ofList cs) = .ok n := by
    rw [Numeral.number, String.toList_ofList]
    exact (Numeral.Literal.numberOfChars_iff (hcs.trimChars_self.symm ▸ hcs)).2 ⟨rfl, hn⟩
  have hsize : Numeral.size (String.ofList cs) = .ok n := by
    have hplain : Numeral.sizeOfChars ([] ++ cs ++ []) = .ok n ↔ _ :=
      hcs.sizeOfChars_plain (by simp) (by simp)
    rw [List.nil_append, List.append_nil] at hplain
    rw [Numeral.size, String.toList_ofList]
    exact hplain.2 ⟨Nat.mul_one n, (Nat.mul_one n).symm ▸ hn⟩
  refine ⟨_, Text.decodeUtf8?_ascii hcs.isAscii, ?_, ?_⟩
  · rw [Invocation.number, hnumber]
  · unfold Invocation.sizeOf
    rw [hsize]

theorem space_of_names {space : AddressSpace} (h : Names text space) :
    ∃ s, Text.decodeUtf8? text = some s ∧ Invocation.spaceOf s = .ok space := by
  have hascii : space.name.toList.all (·.toNat < 128) = true := by cases space <;> decide
  refine ⟨space.name, ?_, ?_⟩
  · rw [h, Text.decodeUtf8?_ascii_toList hascii]
  · rw [Invocation.spaceOf, AddressSpace.parse, AddressSpace.ofName?_eq_some_iff.2 rfl]

theorem takeValue_path (hnew : inv.gives (.value o) = false) (ho : Invocation.isPath o = true)
    (htext : text ≠ []) : takeValue inv o text = .ok (inv.setPath o ⟨text⟩) := by
  have hempty : ¬ text.isEmpty = true := mt List.isEmpty_iff.1 htext
  rw [takeValue, hnew, if_neg Bool.false_ne_true, if_pos ho, if_neg hempty]

theorem takeValue_read {s : String} (hnew : inv.gives (.value o) = false)
    (ho : Invocation.isPath o = false) (hs : Text.decodeUtf8? text = some s)
    (hread : inv.read o s = .ok inv') : takeValue inv o text = .ok inv' := by
  rw [takeValue, hnew, ho, if_neg Bool.false_ne_true, if_neg Bool.false_ne_true, hs]
  simp only [hread]

/-- A value of a configuration is taken in, and nothing else changes. -/
theorem takeValue_of_denotes (hinv : Expressible inv) (h : Denotes inv text o)
    (hnew : inv'.gives (.value o) = false) :
    takeValue inv' o text = .ok (inv.adopt inv' (.value o)) := by
  cases o with
  | card =>
      obtain ⟨n, hn, hspells⟩ := h
      have hlt : n.toNat < UInt32.size := n.toNat_lt
      obtain ⟨s, hs, hnumber, -⟩ := number_of_spells hspells (hlt.trans (by decide))
      refine takeValue_read hnew rfl hs ?_
      simp only [Invocation.read, Invocation.cardOf, hnumber, if_pos hlt, UInt32.ofNat_toNat, adopt,
        hn]
      rfl
  | input =>
      rw [takeValue_path hnew rfl (hinv.input _ h), Invocation.setPath, adopt, h]
  | output =>
      rw [takeValue_path hnew rfl (hinv.output _ h), Invocation.setPath, adopt, h]
  | sourceSpace | targetSpace =>
      obtain ⟨space, hspace, hnames⟩ := h
      obtain ⟨s, hs, hread⟩ := space_of_names hnames
      refine takeValue_read hnew rfl hs ?_
      simp only [Invocation.read, hread, adopt, hspace]
      rfl
  | sourceAddr | targetAddr =>
      obtain ⟨n, hn, hspells⟩ := h
      obtain ⟨s, hs, hnumber, -⟩ := number_of_spells hspells n.toNat_lt
      refine takeValue_read hnew rfl hs ?_
      simp only [Invocation.read, hnumber, Except.map, UInt64.ofNat_toNat, adopt, hn]
  | size =>
      obtain ⟨n, hn, hspells⟩ := h
      obtain ⟨s, hs, -, hsize⟩ := number_of_spells hspells (hinv.size n hn)
      refine takeValue_read hnew rfl hs ?_
      simp only [Invocation.read, hsize, adopt, hn]
      rfl
  | timeout =>
      obtain ⟨n, hn, hspells⟩ := h
      obtain ⟨s, hs, hnumber, -⟩ := number_of_spells hspells (hinv.timeout n hn)
      refine takeValue_read hnew rfl hs ?_
      simp only [Invocation.read, hnumber, adopt, hn]
      rfl

/-! ### Reading all options -/

/-- An option of a configuration is taken in, unless it was before. -/
theorem absorb_of_tells (hinv : Expressible inv) (hocc : occ.Tells inv)
    (hnew : inv'.gives occ.name = false) : absorb inv' occ = .ok (inv.adopt inv' occ.name) := by
  cases occ with
  | value o form text => exact takeValue_of_denotes hinv (hocc.denotes o form text rfl) hnew
  | flag f spelled =>
      have hon : inv.gives (.flag f) = true := hocc.given
      have hset : inv'.setFlag f = inv.adopt inv' (.flag f) := by
        cases f <;> simp only [Invocation.gives] at hon <;>
          simp only [Invocation.setFlag, adopt, hon]
      have hnot : ¬ inv'.gives (.flag f) = true := Bool.eq_false_iff.1 hnew
      rw [absorb, if_neg hnot, hset]
      rfl

/-- **Any options of a configuration are taken in**, one after another, where none of them was
before. -/
theorem takeAll_of_tells (hinv : Expressible inv) (h : Tells inv occs)
    (hp : settle p = .ok inv') (hnew : ∀ occ ∈ occs, inv'.gives occ.name = false) :
    takeAll p (occs.flatMap Occurrence.arguments) =
      .ok ((occs.map Occurrence.name).foldl (adopt inv) inv') := by
  induction occs generalizing p inv' with
  | nil => exact hp
  | cons occ occs ih =>
      obtain ⟨hocc, heach⟩ := List.forall_mem_cons.1 h.each
      obtain ⟨hnew, hrest⟩ := List.forall_mem_cons.1 hnew
      obtain ⟨honce, hnodup⟩ := List.nodup_cons.1 h.once
      have habsorb := absorb_of_tells hinv hocc hnew
      rw [List.flatMap_cons, List.map_cons, List.foldl_cons]
      rcases takeAll_arguments hocc.separable hp (occs.flatMap Occurrence.arguments) with
        ⟨p', hp', hread⟩ | ⟨e, herror, -⟩
      · rw [hread]
        refine ih ⟨hnodup, heach⟩ (hp'.trans habsorb) fun other hother => ?_
        -- The names differ, so what was not given before is not given by this option either.
        have hne : other.name ≠ occ.name := fun heq =>
          honce (heq ▸ List.mem_map_of_mem hother)
        rw [Invocation.gives_adopt_of_ne inv inv' hne]
        exact hrest other hother
      · rw [habsorb] at herror
        cases herror

/-! ### Writing a configuration -/

theorem spells_hexChars (n : Nat) : Spells (ascii ('0' :: 'x' :: Text.hexChars n)) n :=
  ⟨_, rfl, .hexadecimal (Or.inl rfl) (Numeral.writes_hexChars n)⟩

theorem exists_denotes (h : inv.gives (.value o) = true) : ∃ text, Denotes inv text o := by
  cases o with
  | input | output =>
      obtain ⟨path, hpath⟩ := Option.isSome_iff_exists.1 h
      exact ⟨path.bytes, hpath⟩
  | sourceSpace | targetSpace =>
      obtain ⟨space, hspace⟩ := Option.isSome_iff_exists.1 h
      exact ⟨_, space, hspace, rfl⟩
  | card | sourceAddr | targetAddr | size | timeout =>
      obtain ⟨n, hn⟩ := Option.isSome_iff_exists.1 h
      exact ⟨_, n, hn, spells_hexChars _⟩

theorem exists_tells {n : OptionName} (h : inv.gives n = true) :
    ∃ occ : Occurrence, occ.name = n ∧ occ.Tells inv := by
  cases n with
  | value o =>
      obtain ⟨text, htext⟩ := exists_denotes h
      refine ⟨.value o .joined text, rfl, h, ?_, trivial⟩
      rintro _ _ _ ⟨⟩
      exact htext
  | flag f => exact ⟨.flag f true, rfl, h, (fun _ _ _ heq => nomatch heq), trivial⟩
  | inquiry i => exact absurd h Bool.false_ne_true

/-- **Every configuration can be written.** -/
theorem exists_expressing (inv : Invocation) : ∃ occs, Expresses inv occs := by
  choose write hname htells using fun n (h : inv.gives n = true) => exists_tells h
  have hgiven : ∀ n ∈ OptionName.all.filter inv.gives, inv.gives n = true :=
    fun n hn => (List.mem_filter.1 hn).2
  have hnames : ((OptionName.all.filter inv.gives).pmap write hgiven).map Occurrence.name =
      OptionName.all.filter inv.gives := by
    rw [List.map_pmap]
    simp only [hname, List.pmap_eq_map, List.map_id']
  refine ⟨(OptionName.all.filter inv.gives).pmap write hgiven, ⟨?_, fun occ hocc => ?_⟩,
    fun n hn => ?_⟩
  · rw [hnames]
    exact List.filter_sublist.nodup (by decide)
  · obtain ⟨n, hn, rfl⟩ := List.mem_pmap.1 hocc
    exact htells n _
  · rw [hnames]
    exact List.mem_filter.2 ⟨n.mem_all, hn⟩

theorem Expresses.perm {occs' : List Occurrence} (h : Expresses inv occs) (hperm : occs'.Perm occs) :
    Expresses inv occs' where
  once := (hperm.map _).nodup_iff.2 h.once
  each := fun occ hocc => h.each occ (hperm.mem_iff.1 hocc)
  complete := fun n hn => (hperm.map _).mem_iff.2 (h.complete n hn)

theorem parse_eq_of_expresses (hinv : Expressible inv) (h : Expresses inv occs) :
    parse (occs.flatMap Occurrence.arguments) = .ok inv := by
  have hnames : ∀ n, n ∈ occs.map Occurrence.name ↔ inv.gives n = true := by
    refine fun n => ⟨fun hn => ?_, h.complete n⟩
    obtain ⟨occ, hocc, rfl⟩ := List.mem_map.1 hn
    exact (h.each occ hocc).given
  have hnew : ∀ occ ∈ occs, Invocation.none.gives occ.name = false := by
    intro occ _
    rw [Invocation.gives_none]
  have hread := takeAll_of_tells (p := ⟨.none, none⟩) hinv h.toTells rfl hnew
  rw [Invocation.foldl_adopt_eq hnames] at hread
  exact hread

/-- **The command line can express every configuration, and means what it says, in any order.**
However the options of a configuration are written, the program reads that configuration, in this
order as in any other, and runs with its values, with the standard ones for what is not given, and
with the backend that the environment names. -/
theorem parse_of_expresses (hinv : Expressible inv) :
    (∃ occs, Expresses inv occs) ∧
      ∀ occs, Expresses inv occs →
        parse (occs.flatMap Occurrence.arguments) = .ok inv ∧
        (∀ occs' : List Occurrence, occs'.Perm occs →
          parse (occs'.flatMap Occurrence.arguments) =
            parse (occs.flatMap Occurrence.arguments)) ∧
        ∀ env : Environment, (Program.clientOf inv env).options =
          { card := inv.card.getD 0
            input := inv.input
            output := inv.output
            sourceSpace := inv.sourceSpace.getD .hostDram
            sourceAddr := inv.sourceAddr
            targetSpace := inv.targetSpace.getD .hostDram
            targetAddr := inv.targetAddr
            size := inv.size
            timeout := inv.timeout.getD 600
            verify := inv.verify
            irq := !inv.noIrq
            backend := Device.backendOf (Program.textOf env.backend) } := by
  refine ⟨exists_expressing inv, fun occs h => ⟨parse_eq_of_expresses hinv h, fun occs' hperm => ?_, ?_⟩⟩
  · rw [parse_eq_of_expresses hinv h, parse_eq_of_expresses hinv (h.perm hperm)]
  · exact fun env => rfl

/-- A flag by its letter, a size in octal, a path that starts with a minus sign and a card in
hexadecimal. -/
theorem parse_of_expresses_octal :
    ∃ inv : Invocation, inv = { Invocation.none with
        card := some 31, input := some ⟨ascii "-a".toList⟩, size := some 8, verify := true } ∧
      Expressible inv ∧
      parse [ascii "-X".toList, ascii "-s".toList, ascii "010".toList,
        ascii "--input=-a".toList, ascii "--card".toList, ascii "0x1F".toList] = .ok inv := by
  refine ⟨_, rfl, ?_⟩
  have hinv : Expressible { Invocation.none with
      card := some 31, input := some ⟨ascii "-a".toList⟩, size := some 8, verify := true } := by
    refine ⟨?_, nofun, ?_, nofun⟩
    · rintro _ ⟨⟩
      decide
    · rintro _ ⟨⟩
      decide
  have hsize : Spells (ascii "010".toList) 8 := ⟨_, rfl, .octal (by decide +kernel)⟩
  have hcard : Spells (ascii "0x1F".toList) 31 :=
    ⟨_, rfl, .hexadecimal (Or.inl rfl) (by decide +kernel)⟩
  have hread := (parse_of_expresses hinv).2
    [.flag .verify false, .value .size .short (ascii "010".toList),
      .value .input .joined (ascii "-a".toList), .value .card .long (ascii "0x1F".toList)]
    ⟨⟨by decide, ?_⟩, ?_⟩
  · exact ⟨hinv, hread.1⟩
  · simp only [List.forall_mem_cons, List.not_mem_nil, false_imp_iff, implies_true, and_true]
    have hhead : (ascii "010".toList).head? ≠ some minus ∧
        (ascii "0x1F".toList).head? ≠ some minus := by decide
    refine ⟨⟨rfl, nofun, trivial⟩, ⟨rfl, ?_, hhead.1⟩, ⟨rfl, ?_, trivial⟩, ⟨rfl, ?_, hhead.2⟩⟩
    · rintro _ _ _ ⟨⟩
      exact ⟨8, rfl, hsize⟩
    · rintro _ _ _ ⟨⟩
      rfl
    · rintro _ _ _ ⟨⟩
      exact ⟨31, rfl, hcard⟩
  · decide

end CommandLine

end Offload
