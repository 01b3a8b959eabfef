/-
**What a command line says.**

Main definitions:

* `Invocation` — the values and flags that were given;
* `Invocation.read` — reading the value of an option;
* `Invocation.toOptions` — the options of a run;
* `Invocation.describe` — an invocation in words, for the log;
* `ValueFault` — what can be wrong with a value.
-/

import Offload.Client.Options
import Offload.CommandLine.Names
import Offload.Error
import Offload.Numeral

set_option relaxedAutoImplicit false
set_option autoImplicit false

namespace Offload

/-- What is wrong with a value. -/
inductive ValueFault where
  | number (e : Numeral.Error)
  | cardOutOfRange (n : Nat)
  | space (e : Error)
  deriving DecidableEq, Repr

/-- The fault in words. -/
def ValueFault.message : ValueFault → String
  | number e => e.message
  | cardOutOfRange n => "card number " ++ toString n ++ " is out of range"
  | space e => e.message

/-- The values and flags that a command line gives. -/
structure Invocation where
  card : Option UInt32
  input : Option Path
  output : Option Path
  sourceSpace : Option AddressSpace
  sourceAddr : Option UInt64
  targetSpace : Option AddressSpace
  targetAddr : Option UInt64
  size : Option Nat
  timeout : Option Nat
  verify : Bool
  noIrq : Bool
  verbose : Bool
  deriving DecidableEq, Repr

namespace Invocation

/-- The command line that gives nothing. -/
def none : Invocation where
  card := .none
  input := .none
  output := .none
  sourceSpace := .none
  sourceAddr := .none
  targetSpace := .none
  targetAddr := .none
  size := .none
  timeout := .none
  verify := false
  noIrq := false
  verbose := false

/-! ### Reading values -/

/-- Was the option given? -/
def gives (inv : Invocation) : OptionName → Bool
  | .value .card => inv.card.isSome
  | .value .input => inv.input.isSome
  | .value .output => inv.output.isSome
  | .value .sourceSpace => inv.sourceSpace.isSome
  | .value .sourceAddr => inv.sourceAddr.isSome
  | .value .targetSpace => inv.targetSpace.isSome
  | .value .targetAddr => inv.targetAddr.isSome
  | .value .size => inv.size.isSome
  | .value .timeout => inv.timeout.isSome
  | .flag .verify => inv.verify
  | .flag .noIrq => inv.noIrq
  | .flag .verbose => inv.verbose
  | .inquiry _ => false

/-- The invocation with a flag given. -/
def setFlag (inv : Invocation) : Flag → Invocation
  | .verify => { inv with verify := true }
  | .noIrq => { inv with noIrq := true }
  | .verbose => { inv with verbose := true }

/-- Is the value a path?  Any bytes will do for one; other values have to be text. -/
def isPath : ValueOption → Bool
  | .input => true
  | .output => true
  | _ => false

/-- The invocation with a path given. -/
def setPath (inv : Invocation) (o : ValueOption) (path : Path) : Invocation :=
  match o with
  | .input => { inv with input := path }
  | .output => { inv with output := path }
  | _ => inv

/-- Reads a number. -/
def number (s : String) : Except ValueFault Nat :=
  match Numeral.number s with
  | .ok n => .ok n
  | .error e => .error (.number e)

/-- Reads a size. -/
def sizeOf (s : String) : Except ValueFault Nat :=
  match Numeral.size s with
  | .ok n => .ok n
  | .error e => .error (.number e)

/-- Reads the number of a card. -/
def cardOf (s : String) : Except ValueFault UInt32 :=
  match number s with
  | .ok n => if n < UInt32.size then .ok (UInt32.ofNat n) else .error (.cardOutOfRange n)
  | .error e => .error e

/-- Reads an address space. -/
def spaceOf (s : String) : Except ValueFault AddressSpace :=
  match AddressSpace.parse s with
  | .ok space => .ok space
  | .error e => .error (.space e)

/-- The invocation with a value given as text. -/
def read (inv : Invocation) (o : ValueOption) (s : String) : Except ValueFault Invocation :=
  match o with
  | .card => (cardOf s).map fun n => { inv with card := n }
  | .input => .ok { inv with input := some (.ofString s) }
  | .output => .ok { inv with output := some (.ofString s) }
  | .sourceSpace => (spaceOf s).map fun space => { inv with sourceSpace := space }
  | .sourceAddr => (number s).map fun n => { inv with sourceAddr := UInt64.ofNat n }
  | .targetSpace => (spaceOf s).map fun space => { inv with targetSpace := space }
  | .targetAddr => (number s).map fun n => { inv with targetAddr := UInt64.ofNat n }
  | .size => (sizeOf s).map fun n => { inv with size := n }
  | .timeout => (number s).map fun n => { inv with timeout := n }

/-! ### Options of a run -/

/-- The options of a run on a backend: what is given, and the standard for the rest. -/
def toOptions (inv : Invocation) (backend : String) : Options :=
  let standard := Options.standard backend
  { card := inv.card.getD standard.card
    input := inv.input
    output := inv.output
    sourceSpace := inv.sourceSpace.getD standard.sourceSpace
    sourceAddr := inv.sourceAddr
    targetSpace := inv.targetSpace.getD standard.targetSpace
    targetAddr := inv.targetAddr
    size := inv.size
    timeout := inv.timeout.getD standard.timeout
    verify := inv.verify
    irq := !inv.noIrq
    backend := backend }

/-! ### In words -/

/-- A value that may be absent, in words. -/
def describeOption {α : Type} (describe : α → String) : Option α → String
  | some a => "Some(" ++ describe a ++ ")"
  | .none => "None"

/-- An address space in words. -/
def describeSpace : AddressSpace → String
  | .hostDram => "HostDram"
  | .cardDram => "CardDram"
  | .nvme => "Nvme"

/-- A flag in words. -/
def describeFlag (b : Bool) : String := if b then "true" else "false"

/-- An invocation in words. -/
def describe (inv : Invocation) : String :=
  let fields : List (String × String) :=
    [("card", toString (inv.card.getD 0).toNat),
     ("input", describeOption Path.quoted inv.input),
     ("output", describeOption Path.quoted inv.output),
     ("src_type", describeOption describeSpace inv.sourceSpace),
     ("src_addr", describeOption (fun a => toString a.toNat) inv.sourceAddr),
     ("dst_type", describeOption describeSpace inv.targetSpace),
     ("dst_addr", describeOption (fun a => toString a.toNat) inv.targetAddr),
     ("size", describeOption toString inv.size),
     ("timeout", toString (inv.timeout.getD Options.standardTimeout)),
     ("verify", describeFlag inv.verify),
     ("no_irq", describeFlag inv.noIrq),
     ("verbose", describeFlag inv.verbose)]
  "Cli \x7b " ++ ", ".intercalate (fields.map fun f => f.1 ++ ": " ++ f.2) ++ " \x7d"

end Invocation

end Offload
