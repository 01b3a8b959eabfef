/-
**The image of a job says what was asked for.**

The parameters of a job lie in the job space as 32 bytes, two descriptors of sixteen: eight bytes of
address, four of length, two of space and two of flags, each least significant byte first and
nothing in between.  No backend in software ever looks at them, so that they are read back here, at
those places: what is found is what the job was made from.

Main definitions:

* `littleEndianValue` — the number that bytes stand for;
* `AddressDescriptor.ofImage?`, `Job.ofImage?` — the descriptors that are found at their places.

Main results:

* `AddressDescriptor.ofImage?_image`, `Job.ofImage?_image` — **descriptors are read back**;
* `JobRequest.eq_of_image_eq` — no two requests come to the same image;
* `JobRequest.image_faithful` — **the image of a job tells the request**.
-/

import Offload.Job.Request
import Mathlib.Algebra.Group.Nat.Defs

set_option relaxedAutoImplicit false
set_option autoImplicit false

namespace Offload

/-! ### Numbers of several bytes -/

/-- The number that bytes stand for, least significant byte first. -/
def littleEndianValue : List UInt8 → Nat
  | [] => 0
  | b :: rest => b.toNat + 256 * littleEndianValue rest

/-- A number that fits its bytes is read back from them. -/
theorem littleEndianValue_littleEndian (width : Nat) {n : Nat} (h : n < 256 ^ width) :
    littleEndianValue (littleEndian width n) = n := by
  induction width generalizing n with
  | zero =>
      rw [Nat.pow_zero, Nat.lt_one_iff] at h
      rw [h]
      rfl
  | succ width ih =>
      have hrest : n / 256 < 256 ^ width := by
        rw [Nat.pow_succ] at h
        exact Nat.div_lt_of_lt_mul (Nat.mul_comm _ _ ▸ h)
      have hbyte : (UInt8.ofNat (n % 256)).toNat = n % 256 :=
        UInt8.toNat_ofNat_of_lt' (Nat.mod_lt _ (by decide))
      rw [littleEndian, littleEndianValue, ih hrest, hbyte]
      exact Nat.mod_add_div n 256

/-! ### Descriptors -/

/-- The descriptor that sixteen bytes hold: address, length, space and flags at their places. -/
def AddressDescriptor.ofImage? (bytes : List UInt8) : Option AddressDescriptor :=
  if bytes.length = 16 then
    (AddressSpace.ofCode? (.ofNat (littleEndianValue ((bytes.drop 12).take 2)))).map fun space =>
      { addr := .ofNat (littleEndianValue (bytes.take 8))
        size := .ofNat (littleEndianValue ((bytes.drop 8).take 4))
        space
        flags := ⟨.ofNat (littleEndianValue (bytes.drop 14))⟩ }
  else none

/-- The two descriptors that 32 bytes hold, one behind the other. -/
def Job.ofImage? (bytes : List UInt8) : Option (AddressDescriptor × AddressDescriptor) :=
  match AddressDescriptor.ofImage? (bytes.take 16), AddressDescriptor.ofImage? (bytes.drop 16) with
  | some input, some output => some (input, output)
  | _, _ => none

/-- Each field starts where the ones before it end. -/
theorem AddressDescriptor.places_image (d : AddressDescriptor) :
    d.image.take 8 = littleEndian 8 d.addr.toNat ∧
      (d.image.drop 8).take 4 = littleEndian 4 d.size.toNat ∧
      (d.image.drop 12).take 2 = littleEndian 2 d.space.code.toNat ∧
      d.image.drop 14 = littleEndian 2 d.flags.bits.toNat := by
  simp [image, List.drop_append, List.drop_of_length_le]

/-- **A descriptor is read back from its image.** -/
theorem AddressDescriptor.ofImage?_image (d : AddressDescriptor) : ofImage? d.image = some d := by
  have haddr : littleEndianValue (littleEndian 8 d.addr.toNat) = d.addr.toNat :=
    littleEndianValue_littleEndian 8 d.addr.toNat_lt
  have hsize : littleEndianValue (littleEndian 4 d.size.toNat) = d.size.toNat :=
    littleEndianValue_littleEndian 4 d.size.toNat_lt
  have hspace : littleEndianValue (littleEndian 2 d.space.code.toNat) = d.space.code.toNat :=
    littleEndianValue_littleEndian 2 d.space.code.toNat_lt
  have hflags : littleEndianValue (littleEndian 2 d.flags.bits.toNat) = d.flags.bits.toNat :=
    littleEndianValue_littleEndian 2 d.flags.bits.toNat_lt
  obtain ⟨haddrAt, hsizeAt, hspaceAt, hflagsAt⟩ := d.places_image
  rw [ofImage?, if_pos d.length_image, haddrAt, hsizeAt, hspaceAt, hflagsAt, haddr, hsize, hspace,
    hflags]
  simp only [UInt16.ofNat_toNat, UInt32.ofNat_toNat, UInt64.ofNat_toNat, AddressSpace.ofCode?_code,
    Option.map_some]

/-- **Both descriptors of a job are read back from its image.** -/
theorem Job.ofImage?_image (job : Job) : ofImage? job.image = some (job.input, job.output) := by
  have hinput := job.input.length_image
  rw [ofImage?, image, List.take_left' hinput, List.drop_left' hinput,
    AddressDescriptor.ofImage?_image, AddressDescriptor.ofImage?_image]

/-! ### Requests -/

namespace JobRequest

variable {r r' : JobRequest} {j j' : Job}

/-- A request is found in the image of its job. -/
theorem ofImage?_image_of_job (h : r.job = .ok j) :
    ∃ lenIn lenOut : UInt32, lenIn.toNat = r.sizeIn ∧ lenOut.toNat = r.sizeOut ∧
      Job.ofImage? j.image =
        some (⟨r.addrIn, lenIn, r.spaceIn, .ofSource⟩,
          ⟨r.addrOut, lenOut, r.spaceOut, .ofDestination⟩) := by
  rcases r.job_cases with ⟨-, hjob⟩ | ⟨-, -, hjob⟩ | ⟨lenIn, lenOut, hlenIn, hlenOut, hjob⟩
  · cases hjob.symm.trans h
  · cases hjob.symm.trans h
  · cases hjob.symm.trans h
    exact ⟨lenIn, lenOut, hlenIn, hlenOut, Job.ofImage?_image _⟩

/-- **Two requests that come to the same image are the same.** -/
theorem eq_of_image_eq (h : r.job = .ok j) (h' : r'.job = .ok j') (himage : j.image = j'.image) :
    r = r' := by
  obtain ⟨lenIn, lenOut, hlenIn, hlenOut, hread⟩ := ofImage?_image_of_job h
  obtain ⟨lenIn', lenOut', hlenIn', hlenOut', hread'⟩ := ofImage?_image_of_job h'
  rw [himage, hread'] at hread
  simp only [Option.some.injEq, Prod.mk.injEq, AddressDescriptor.mk.injEq] at hread
  obtain ⟨⟨haddrIn, rfl, hspaceIn, -⟩, haddrOut, rfl, hspaceOut, -⟩ := hread
  obtain ⟨addrIn, sizeIn, spaceIn, addrOut, sizeOut, spaceOut⟩ := r
  obtain ⟨addrIn', sizeIn', spaceIn', addrOut', sizeOut', spaceOut'⟩ := r'
  simp only at haddrIn hspaceIn haddrOut hspaceOut hlenIn hlenIn' hlenOut hlenOut'
  rw [haddrIn, hspaceIn, haddrOut, hspaceOut, ← hlenIn, ← hlenIn', ← hlenOut, ← hlenOut']

/-- **The image of a job tells the request that it was made from.**  A request is refused, as an
argument that does not fit, exactly if one of its sizes is 2^32 or more; the size that is named is
the one to read if it is that one or both.  Any other request comes to 32 bytes from which both its
regions are read back, with their sizes in full and with the flags for reading and writing, so that
no other request comes to the same bytes. -/
theorem image_faithful (r : JobRequest) :
    (∀ e, r.job = .error e ↔
      (UInt32.size ≤ r.sizeIn ∨ UInt32.size ≤ r.sizeOut) ∧
        e = .argument (.oversized (if UInt32.size ≤ r.sizeIn then r.sizeIn else r.sizeOut))) ∧
    (r.sizeIn < UInt32.size → r.sizeOut < UInt32.size →
      ∃ j, r.job = .ok j ∧ j.image.length = 32 ∧
        (∃ lenIn lenOut : UInt32, lenIn.toNat = r.sizeIn ∧ lenOut.toNat = r.sizeOut ∧
          Job.ofImage? j.image =
            some (⟨r.addrIn, lenIn, r.spaceIn, ⟨AddressFlags.address ||| AddressFlags.source⟩⟩,
              ⟨r.addrOut, lenOut, r.spaceOut,
                ⟨AddressFlags.address ||| AddressFlags.destination ||| AddressFlags.last⟩⟩)) ∧
        ∀ r' j', r'.job = .ok j' → j'.image = j.image → r' = r) := by
  refine ⟨fun e => job_eq_error_iff, fun hin hout => ?_⟩
  cases hjob : r.job with
  | error e =>
      obtain ⟨hlarge, -⟩ := job_eq_error_iff.1 hjob
      omega
  | ok j =>
      exact ⟨j, rfl, j.length_image, ofImage?_image_of_job hjob,
        fun r' j' hj' himage => eq_of_image_eq hj' hjob himage⟩

/-- Every byte of an image has its place. -/
example :
    (JobRequest.job ⟨0x1122334455667788, 0x40, .hostDram, 0x2000, 0x01020304, .cardDram⟩).map
        Job.image =
      .ok [0x88, 0x77, 0x66, 0x55, 0x44, 0x33, 0x22, 0x11, 0x40, 0, 0, 0, 0, 0, 0x03, 0,
        0, 0x20, 0, 0, 0, 0, 0, 0, 0x04, 0x03, 0x02, 0x01, 1, 0, 0x15, 0] := rfl

end JobRequest

end Offload
