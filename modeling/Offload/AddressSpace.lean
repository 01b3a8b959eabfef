/-
**Where the memory behind an address lives.**

Main definitions:

* `AddressSpace` — host memory, card memory, or a storage device;
* `AddressSpace.name`, `AddressSpace.ofName?` — its name on the command line;
* `AddressSpace.code`, `AddressSpace.ofCode?` — its number in a job descriptor;
* `AddressSpace.label` — number and name, as the parameters of a job are listed.

Main results:

* `AddressSpace.ofName?_eq_some_iff`, `AddressSpace.ofCode?_code` — names and numbers are read back.
-/

import Offload.Text.Hex

set_option relaxedAutoImplicit false
set_option autoImplicit false

namespace Offload

/-- The memory that an address of a job refers to. -/
inductive AddressSpace where
  | hostDram
  | cardDram
  | nvme
  deriving DecidableEq, Repr, Inhabited

namespace AddressSpace

/-- The name of the space. -/
def name : AddressSpace → String
  | hostDram => "HOST_DRAM"
  | cardDram => "CARD_DRAM"
  | nvme => "TYPE_NVME"

/-- The space of the given name; names are matched exactly. -/
def ofName? (s : String) : Option AddressSpace :=
  [hostDram, cardDram, nvme].find? fun space => space.name == s

theorem ofName?_eq_some_iff {s : String} {space : AddressSpace} :
    ofName? s = some space ↔ s = space.name := by
  constructor
  · intro h
    have := List.find?_some h
    exact (beq_iff_eq.1 this).symm
  · rintro rfl
    cases space <;> decide

/-- The number of the space in a job descriptor. -/
def code : AddressSpace → UInt16
  | hostDram => 0
  | cardDram => 1
  | nvme => 2

/-- The space of the given number. -/
def ofCode? (n : UInt16) : Option AddressSpace :=
  [hostDram, cardDram, nvme].find? fun space => space.code == n

@[simp] theorem ofCode?_code (space : AddressSpace) : ofCode? space.code = some space := by
  cases space <;> rfl

/-- Number and name of the space. -/
def label (space : AddressSpace) : String :=
  Text.hex space.code.toNat ++ " " ++ space.name

end AddressSpace

end Offload
