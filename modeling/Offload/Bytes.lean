/-
**Byte strings with cheap runs of zeros.**

Job buffers start out as zeros and can be gigabytes long, and card memory is read far beyond what
was ever written.  A byte string is therefore a list of chunks, each a run of zeros that is only
counted or a block of bytes that is stored.  How a string is cut into chunks means nothing: its
meaning is the list of bytes `Bytes.toList`, and every operation is described by what it does to
that list.

Main definitions:

* `Bytes` — a byte string; `Bytes.zeros`, `Bytes.ofByteArray`, `Bytes.ofList` build one;
* `Bytes.take`, `Bytes.drop`, `Bytes.slice` — parts of a string;
* `Bytes.overwrite` — a string with some of its bytes replaced;
* `Bytes.upper` — a string with its ASCII letters in upper case.

Main results:

* `Bytes.toList_take`, `Bytes.toList_drop`, `Bytes.toList_append`, `Bytes.toList_upper`,
  `Bytes.toList_overwrite` — **the operations are those of the list of bytes**;
* `Bytes.size_overwrite` — a replacement that fits does not change the length.
-/

set_option relaxedAutoImplicit false
set_option autoImplicit false

namespace Offload

/-- The byte with an ASCII lower-case letter raised to upper case; any other byte is kept. -/
def upperByte (b : UInt8) : UInt8 := if 97 ≤ b ∧ b ≤ 122 then b - 32 else b

@[simp] theorem upperByte_zero : upperByte 0 = 0 := rfl

/-- A part of a byte string: a run of zeros, or stored bytes. -/
inductive Chunk where
  | zeros (n : Nat)
  | data (b : ByteArray)

namespace Chunk

/-- The bytes of a chunk. -/
def toList : Chunk → List UInt8
  | zeros n => List.replicate n 0
  | data b => b.data.toList

/-- The number of bytes of a chunk. -/
def size : Chunk → Nat
  | zeros n => n
  | data b => b.size

/-- The first `k` bytes. -/
def take (k : Nat) : Chunk → Chunk
  | zeros n => zeros (min k n)
  | data b => data (b.extract 0 k)

/-- All but the first `k` bytes. -/
def drop (k : Nat) : Chunk → Chunk
  | zeros n => zeros (n - k)
  | data b => data (b.extract k b.size)

/-- The chunk with its ASCII letters in upper case. -/
def upper : Chunk → Chunk
  | zeros n => zeros n
  | data b => data ⟨b.data.map upperByte⟩

/-- Does the chunk hold nothing but zeros? -/
def isZero : Chunk → Bool
  | zeros _ => true
  | data b => b.data.toList.all (· == 0)

@[simp] theorem length_toList (c : Chunk) : c.toList.length = c.size := by
  cases c <;> simp [toList, size]

@[simp] theorem toList_take (k : Nat) (c : Chunk) : (c.take k).toList = c.toList.take k := by
  cases c <;> simp [toList, take, List.take_replicate, List.extract_eq_take_drop]

@[simp] theorem toList_drop (k : Nat) (c : Chunk) : (c.drop k).toList = c.toList.drop k := by
  cases c with
  | zeros n => simp [toList, drop]
  | data b =>
      simp only [toList, drop, ByteArray.data_extract, Array.toList_extract,
        List.extract_eq_take_drop]
      rw [List.take_of_length_le]
      simp

@[simp] theorem toList_upper (c : Chunk) : c.upper.toList = c.toList.map upperByte := by
  cases c <;> simp [toList, upper]

theorem isZero_iff (c : Chunk) : c.isZero = true ↔ ∀ b ∈ c.toList, b = 0 := by
  cases c with
  | zeros n => simp [isZero, toList]
  | data b => simp only [isZero, toList, List.all_eq_true, beq_iff_eq]

end Chunk

/-- A byte string, as the concatenation of its chunks. -/
structure Bytes where
  chunks : List Chunk

namespace Bytes

/-- The bytes of a string. -/
def toList (s : Bytes) : List UInt8 := s.chunks.flatMap Chunk.toList

/-- The length of a string. -/
def size (s : Bytes) : Nat := s.chunks.foldr (fun c n => c.size + n) 0

/-- The empty string. -/
def empty : Bytes := ⟨[]⟩

/-- A string of `n` zeros. -/
def zeros (n : Nat) : Bytes := ⟨[.zeros n]⟩

/-- The string that an array of bytes holds. -/
def ofByteArray (b : ByteArray) : Bytes := ⟨[.data b]⟩

/-- The string that a list of bytes spells. -/
def ofList (l : List UInt8) : Bytes := ofByteArray ⟨l.toArray⟩

/-- One string after another. -/
def append (s t : Bytes) : Bytes := ⟨s.chunks ++ t.chunks⟩

instance : Append Bytes := ⟨append⟩

instance : Inhabited Bytes := ⟨empty⟩

/-- The chunks that make up the first `k` bytes. -/
def takeChunks : Nat → List Chunk → List Chunk
  | _, [] => []
  | k, c :: cs => if c.size ≤ k then c :: takeChunks (k - c.size) cs else [c.take k]

/-- The chunks that are left without the first `k` bytes. -/
def dropChunks : Nat → List Chunk → List Chunk
  | _, [] => []
  | k, c :: cs => if c.size ≤ k then dropChunks (k - c.size) cs else c.drop k :: cs

/-- The first `k` bytes. -/
def take (k : Nat) (s : Bytes) : Bytes := ⟨takeChunks k s.chunks⟩

/-- All but the first `k` bytes. -/
def drop (k : Nat) (s : Bytes) : Bytes := ⟨dropChunks k s.chunks⟩

/-- The `len` bytes from offset `off` on. -/
def slice (off len : Nat) (s : Bytes) : Bytes := (s.drop off).take len

/-- The string with the bytes from offset `off` on replaced by `d`, as far as `d` reaches. -/
def overwrite (s : Bytes) (off : Nat) (d : Bytes) : Bytes :=
  s.take off ++ d ++ s.drop (off + d.size)

/-- The string with its ASCII letters in upper case. -/
def upper (s : Bytes) : Bytes := ⟨s.chunks.map Chunk.upper⟩

/-- Does the string hold nothing but zeros? -/
def isZero (s : Bytes) : Bool := s.chunks.all Chunk.isZero

/-- The bytes of the string in one array. -/
def toByteArray (s : Bytes) : ByteArray := ⟨s.toList.toArray⟩

/-! ### The list of bytes -/

@[simp] theorem toList_empty : empty.toList = [] := rfl

@[simp] theorem toList_zeros (n : Nat) : (zeros n).toList = List.replicate n 0 := by
  simp [zeros, toList, Chunk.toList]

@[simp] theorem toList_ofByteArray (b : ByteArray) : (ofByteArray b).toList = b.data.toList := by
  simp [ofByteArray, toList, Chunk.toList]

@[simp] theorem toList_ofList (l : List UInt8) : (ofList l).toList = l := by
  simp [ofList]

@[simp] theorem toList_append (s t : Bytes) : (s ++ t).toList = s.toList ++ t.toList := by
  show (append s t).toList = _
  simp [append, toList]

@[simp] theorem length_toList (s : Bytes) : s.toList.length = s.size := by
  rw [toList, size]
  induction s.chunks with
  | nil => rfl
  | cons c cs ih =>
      rw [List.flatMap_cons, List.length_append, Chunk.length_toList, ih, List.foldr_cons]

theorem toList_takeChunks (k : Nat) (cs : List Chunk) :
    (takeChunks k cs).flatMap Chunk.toList = (cs.flatMap Chunk.toList).take k := by
  induction cs generalizing k with
  | nil => simp [takeChunks]
  | cons c cs ih =>
      by_cases h : c.size ≤ k
      · have hc : c.toList.length ≤ k := by simpa using h
        rw [takeChunks, if_pos h, List.flatMap_cons, ih, List.flatMap_cons, List.take_append,
          List.take_of_length_le hc, Chunk.length_toList]
      · have hk : k - c.toList.length = 0 := by simp; omega
        rw [takeChunks, if_neg h, List.flatMap_cons, List.flatMap_cons, List.take_append, hk]
        simp

theorem toList_dropChunks (k : Nat) (cs : List Chunk) :
    (dropChunks k cs).flatMap Chunk.toList = (cs.flatMap Chunk.toList).drop k := by
  induction cs generalizing k with
  | nil => simp [dropChunks]
  | cons c cs ih =>
      by_cases h : c.size ≤ k
      · have hc : c.toList.length ≤ k := by simpa using h
        rw [dropChunks, if_pos h, ih, List.flatMap_cons, List.drop_append,
          List.drop_of_length_le hc, Chunk.length_toList, List.nil_append]
      · have hk : k - c.toList.length = 0 := by simp; omega
        rw [dropChunks, if_neg h, List.flatMap_cons, List.flatMap_cons, List.drop_append, hk]
        simp

@[simp] theorem toList_take (k : Nat) (s : Bytes) : (s.take k).toList = s.toList.take k :=
  toList_takeChunks k s.chunks

@[simp] theorem toList_drop (k : Nat) (s : Bytes) : (s.drop k).toList = s.toList.drop k :=
  toList_dropChunks k s.chunks

@[simp] theorem toList_slice (off len : Nat) (s : Bytes) :
    (s.slice off len).toList = (s.toList.drop off).take len := by
  simp [slice]

@[simp] theorem toList_upper (s : Bytes) : s.upper.toList = s.toList.map upperByte := by
  simp [upper, toList, List.flatMap_map, List.map_flatMap]

theorem toList_overwrite (s : Bytes) (off : Nat) (d : Bytes) :
    (s.overwrite off d).toList
      = s.toList.take off ++ d.toList ++ s.toList.drop (off + d.size) := by
  simp [overwrite]

theorem isZero_iff (s : Bytes) : s.isZero = true ↔ ∀ b ∈ s.toList, b = 0 := by
  simp only [isZero, toList, List.all_eq_true, Chunk.isZero_iff, List.mem_flatMap]
  exact ⟨fun h b ⟨c, hc, hb⟩ => h c hc b hb, fun h c hc b hb => h b ⟨c, hc, hb⟩⟩

@[simp] theorem data_toByteArray (s : Bytes) : s.toByteArray.data.toList = s.toList := by
  simp [toByteArray]

/-! ### Lengths -/

@[simp] theorem size_zeros (n : Nat) : (zeros n).size = n := by
  simp [zeros, size, Chunk.size]

@[simp] theorem size_append (s t : Bytes) : (s ++ t).size = s.size + t.size := by
  simp [← length_toList]

@[simp] theorem size_take (k : Nat) (s : Bytes) : (s.take k).size = min k s.size := by
  simp [← length_toList]

@[simp] theorem size_drop (k : Nat) (s : Bytes) : (s.drop k).size = s.size - k := by
  simp [← length_toList]

@[simp] theorem size_slice (off len : Nat) (s : Bytes) :
    (s.slice off len).size = min len (s.size - off) := by
  simp [slice]

@[simp] theorem size_upper (s : Bytes) : s.upper.size = s.size := by
  simp [← length_toList]

/-- A replacement that lies inside the string does not change its length. -/
theorem size_overwrite {s : Bytes} {off : Nat} {d : Bytes} (h : off + d.size ≤ s.size) :
    (s.overwrite off d).size = s.size := by
  simp [overwrite]
  omega

end Bytes

end Offload
