/-
**Flag words.**

A descriptor carries sixteen flag bits and an attached action thirty-two.  Some bits have names;
the others are kept as they come and are listed last, as one hexadecimal number.

Main definitions:

* `AddressFlags` — the role of a region within a job;
* `ActionFlags` — how an action signals completion;
* `flagNames` — the flags of a word as a list of names.

Main results:

* `AddressFlags.contains_or` — bits are set all at once or one after another;
* `AddressFlags.isSource_iff`, `AddressFlags.isDestination_iff` — the roles, bit by bit.
-/

import Offload.Text.Hex

set_option relaxedAutoImplicit false
set_option autoImplicit false

namespace Offload

/-! ### Names of bits -/

/-- The named bits of a word, then the rest as a number, separated by bars; `0x0` when no bit is
set. -/
def flagNames (names : List (String × Nat)) (bits : Nat) : String :=
  let known := names.foldl (fun acc entry => acc ||| entry.2) 0
  let set := (names.filter fun entry => bits &&& entry.2 == entry.2).map (·.1)
  let rest := bits ^^^ (bits &&& known)
  let parts := set ++ (if rest = 0 then [] else ["0x" ++ Text.hex rest])
  if parts.isEmpty then "0x0" else " | ".intercalate parts

/-! ### The role of a region -/

/-- The flags of an address descriptor. -/
structure AddressFlags where
  bits : UInt16
  deriving DecidableEq, Repr, Inhabited

namespace AddressFlags

/-- The descriptor holds an address. -/
def address : UInt16 := 0x01
/-- The region is read. -/
def source : UInt16 := 0x02
/-- The region is written. -/
def destination : UInt16 := 0x04
/-- The descriptor points to further ones. -/
def extension : UInt16 := 0x08
/-- The descriptor is the last of its job. -/
def last : UInt16 := 0x10

/-- All bits with a name. -/
def named : UInt16 := 0x1f

/-- The names of the bits. -/
def names : List (String × Nat) :=
  [("ADDR", 0x01), ("SRC", 0x02), ("DST", 0x04), ("EXT", 0x08), ("END", 0x10)]

/-- The flags of a region that is read. -/
def ofSource : AddressFlags := ⟨address ||| source⟩

/-- The flags of the region that is written, which is the last one. -/
def ofDestination : AddressFlags := ⟨address ||| destination ||| last⟩

/-- Are all the given bits set? -/
def contains (f : AddressFlags) (mask : UInt16) : Bool := f.bits &&& mask == mask

/-- Is the region marked to be read? -/
def isSource (f : AddressFlags) : Bool := f.contains (address ||| source)

/-- Is the region marked to be written? -/
def isDestination (f : AddressFlags) : Bool := f.contains (address ||| destination)

/-- A word has the bits of two masks if it has those of the one and those of the other. -/
theorem contains_or (f : AddressFlags) (a b : UInt16) :
    f.contains (a ||| b) = true ↔ f.contains a = true ∧ f.contains b = true := by
  have hbits : ∀ mask : UInt16, f.contains mask = true ↔
      ∀ i, mask.toBitVec.getLsbD i = true → f.bits.toBitVec.getLsbD i = true := by
    intro mask
    rw [contains, beq_iff_eq, ← UInt16.toBitVec_inj, UInt16.toBitVec_and]
    constructor
    · intro h i hi
      rw [← h, BitVec.getLsbD_and, Bool.and_eq_true] at hi
      exact hi.1
    · intro h
      refine BitVec.eq_of_getLsbD_eq fun i _ => ?_
      rw [BitVec.getLsbD_and]
      cases hi : mask.toBitVec.getLsbD i with
      | false => rw [Bool.and_false]
      | true => rw [h i hi, Bool.and_true]
  simp only [hbits, UInt16.toBitVec_or, BitVec.getLsbD_or, Bool.or_eq_true, or_imp, forall_and]

theorem isSource_iff (f : AddressFlags) : f.isSource = true ↔ f.bits &&& 3 = 3 := by
  have h : address ||| source = 3 := rfl
  simp [isSource, contains, h]

theorem isDestination_iff (f : AddressFlags) : f.isDestination = true ↔ f.bits &&& 5 = 5 := by
  have h : address ||| destination = 5 := rfl
  simp [isDestination, contains, h]

@[simp] theorem isSource_ofSource : ofSource.isSource = true := rfl

@[simp] theorem isDestination_ofDestination : ofDestination.isDestination = true := rfl

/-- The flags without the bits that have no name. -/
def known (f : AddressFlags) : AddressFlags := ⟨f.bits &&& named⟩

/-- The flags in words. -/
def describe (f : AddressFlags) : String := "AddrFlags(" ++ flagNames names f.bits.toNat ++ ")"

end AddressFlags

/-! ### Completion -/

/-- The flags that an action is attached with. -/
structure ActionFlags where
  bits : UInt32
  deriving DecidableEq, Repr, Inhabited

namespace ActionFlags

/-- The action raises an interrupt when a job is done, instead of being polled. -/
def doneInterrupt : UInt32 := 0x01

/-- All bits with a name. -/
def named : UInt32 := 0x01

/-- The names of the bits. -/
def names : List (String × Nat) := [("DONE_IRQ", 0x01)]

/-- The flags of an action that is waited for by interrupt or by polling. -/
def ofInterrupt (irq : Bool) : ActionFlags := ⟨if irq then doneInterrupt else 0⟩

/-- Does the action raise an interrupt when a job is done? -/
def signalsDone (f : ActionFlags) : Bool := f.bits &&& doneInterrupt == doneInterrupt

/-- The flags without the bits that have no name. -/
def known (f : ActionFlags) : ActionFlags := ⟨f.bits &&& named⟩

/-- The flags in words. -/
def describe (f : ActionFlags) : String := "ActionFlags(" ++ flagNames names f.bits.toNat ++ ")"

end ActionFlags

end Offload
