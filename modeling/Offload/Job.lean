/-
**Job descriptors.**

A job tells the action where to read and where to write.  Its parameters are two address
descriptors of sixteen bytes each; beside them stands the return code that the action reports.

Main definitions:

* `AddressDescriptor` — one memory region as the action sees it;
* `Job` — a job as it is handed to an action; `Job.changecase` builds one;
* `descriptorLength` — the length of a region, if it fits the field for it;
* `Job.image` — the bytes of the parameters in the job space.

Main results:

* `descriptorLength_eq_none_iff`, `descriptorLength_eq_some_iff` — the lengths that fit are those
  below 2^32, and they are not changed;
* `AddressDescriptor.length_image`, `Job.length_image` — the images are 16 and 32 bytes long.
-/

import Offload.AddressSpace
import Offload.Flags

set_option relaxedAutoImplicit false
set_option autoImplicit false

namespace Offload

/-- One memory region as the action sees it. -/
structure AddressDescriptor where
  addr : UInt64
  size : UInt32
  space : AddressSpace
  flags : AddressFlags
  deriving DecidableEq, Repr, Inhabited

/-- A job: the return code, the region to read and the region to write. -/
structure Job where
  retc : UInt32
  input : AddressDescriptor
  output : AddressDescriptor
  deriving DecidableEq, Repr, Inhabited

/-- The return code of an action that did its job. -/
def Job.success : UInt32 := 0x102

/-- The return code of an action that could not do its job. -/
def Job.failure : UInt32 := 0x104

/-- The bytes that the parameters of a job may take. -/
def Job.space : Nat := 112

/-- The length of a region as the field of a descriptor, or nothing if it is 2^32 or more. -/
def descriptorLength (size : Nat) : Option UInt32 :=
  if size < UInt32.size then some (UInt32.ofNat size) else none

theorem descriptorLength_eq_none_iff (size : Nat) :
    descriptorLength size = none ↔ UInt32.size ≤ size := by
  simp [descriptorLength]

theorem descriptorLength_eq_some_iff {size : Nat} {n : UInt32} :
    descriptorLength size = some n ↔ n.toNat = size := by
  constructor
  · intro h
    rw [descriptorLength] at h
    split at h
    · next hs =>
        cases h
        exact UInt32.toNat_ofNat_of_lt hs
    · cases h
  · rintro rfl
    have := n.toNat_lt
    simp [descriptorLength, this]

/-- The job that reads one region and writes another, with a return code of zero.  When a size
does not fit its descriptor the result is that size; the size to read is looked at first. -/
def Job.changecase (addrIn : UInt64) (sizeIn : Nat) (spaceIn : AddressSpace)
    (addrOut : UInt64) (sizeOut : Nat) (spaceOut : AddressSpace) : Except Nat Job :=
  match descriptorLength sizeIn with
  | none => .error sizeIn
  | some lengthIn =>
    match descriptorLength sizeOut with
    | none => .error sizeOut
    | some lengthOut =>
      .ok {
        retc := 0
        input := ⟨addrIn, lengthIn, spaceIn, .ofSource⟩
        output := ⟨addrOut, lengthOut, spaceOut, .ofDestination⟩ }

/-- Did the action report success? -/
def Job.succeeded (job : Job) : Bool := job.retc == Job.success

/-! ### The image in the job space -/

/-- The `width` low bytes of a number, least significant first. -/
def littleEndian : Nat → Nat → List UInt8
  | 0, _ => []
  | width + 1, n => UInt8.ofNat (n % 256) :: littleEndian width (n / 256)

@[simp] theorem length_littleEndian (width n : Nat) : (littleEndian width n).length = width := by
  induction width generalizing n with
  | zero => rfl
  | succ width ih => simp [littleEndian, ih]

/-- The bytes of a descriptor: address, length, space and flags, each least significant byte
first. -/
def AddressDescriptor.image (d : AddressDescriptor) : List UInt8 :=
  littleEndian 8 d.addr.toNat ++ littleEndian 4 d.size.toNat ++
    littleEndian 2 d.space.code.toNat ++ littleEndian 2 d.flags.bits.toNat

@[simp] theorem AddressDescriptor.length_image (d : AddressDescriptor) : d.image.length = 16 := by
  simp [image]

/-- The bytes of the parameters of a job: the region to read, then the region to write. -/
def Job.image (job : Job) : List UInt8 := job.input.image ++ job.output.image

@[simp] theorem Job.length_image (job : Job) : job.image.length = 32 := by
  simp [image]

/-- The parameters of a job fit into the job space. -/
theorem Job.length_image_le_space (job : Job) : job.image.length ≤ Job.space := by
  simp [Job.space]

end Offload
