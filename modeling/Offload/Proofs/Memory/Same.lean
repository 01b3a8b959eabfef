/-
**Host memories that hold the same bytes.**

Two byte strings may spell the same list of bytes and still be cut into chunks in different ways, so
memories that nobody can tell apart need not be equal.  Here such memories are related: they have
the same blocks in the same order, with the same bytes in them.  Every operation of host memory
respects this.

Main definitions:

* `Block.Same`, `HostMemory.Same` — the same places hold the same bytes;
* `Block.SameFound` — two look-ups find the same.

Main results:

* `HostMemory.Same.live`, `HostMemory.Same.staged`, `HostMemory.Same.read?`,
  `HostMemory.Same.contents?` — **what can be seen of a memory is the same**;
* `HostMemory.Same.allocate`, `HostMemory.Same.free`, `HostMemory.Same.modify`,
  `HostMemory.Same.writeIfStaged` — **and it stays the same**.
-/

import Offload.Memory.Host
import Mathlib.Data.List.Forall2

set_option relaxedAutoImplicit false
set_option autoImplicit false

namespace Offload

/-- Strings that spell the same bytes have the same length. -/
theorem Bytes.size_congr {s t : Bytes} (h : s.toList = t.toList) : s.size = t.size := by
  rw [← Bytes.length_toList, ← Bytes.length_toList, h]

theorem Bytes.overwrite_congr {s t d e : Bytes} (off : Nat) (h : s.toList = t.toList)
    (hd : d.toList = e.toList) : (s.overwrite off d).toList = (t.overwrite off e).toList := by
  rw [Bytes.toList_overwrite, Bytes.toList_overwrite, h, hd, Bytes.size_congr hd]

theorem Bytes.slice_congr {s t : Bytes} (off len : Nat) (h : s.toList = t.toList) :
    (s.slice off len).toList = (t.slice off len).toList := by
  rw [Bytes.toList_slice, Bytes.toList_slice, h]

/-- Two blocks at the same place with the same bytes. -/
structure Block.Same (b c : Block) : Prop where
  addr : b.addr = c.addr
  bytes : b.bytes.toList = c.bytes.toList

theorem Block.Same.buffer {b c : Block} (h : b.Same c) : b.buffer = c.buffer := by
  rw [Block.buffer, Block.buffer, h.addr, Bytes.size_congr h.bytes]

theorem Block.Same.holds {b c : Block} (h : b.Same c) (addr : UInt64) (len : Nat) :
    b.holds addr len = c.holds addr len := by
  rw [Block.holds, Block.holds, h.addr, h.buffer]

/-- Two look-ups find nothing, or blocks at the same place with the same bytes. -/
def Block.SameFound (x y : Option Block) : Prop :=
  (x = none ∧ y = none) ∨ ∃ b c, x = some b ∧ y = some c ∧ b.Same c

theorem Block.SameFound.none : Block.SameFound none none := Or.inl ⟨rfl, rfl⟩

theorem Block.SameFound.some {b c : Block} (h : b.Same c) : Block.SameFound (some b) (some c) :=
  Or.inr ⟨b, c, rfl, rfl, h⟩

namespace HostMemory

/-- The same blocks in the same order with the same bytes, and as many blocks so far. -/
structure Same (m n : HostMemory) : Prop where
  blocks : List.Forall₂ Block.Same m.blocks n.blocks
  granted : m.granted = n.granted

variable {A : Allocator} {m n : HostMemory} {addr : UInt64} {len size : Nat} {d e : Bytes}

theorem Same.refl (m : HostMemory) : m.Same m :=
  ⟨List.forall₂_same.2 fun _ _ => ⟨rfl, rfl⟩, rfl⟩

/-! ### What can be seen -/

theorem buffers_same {bs cs : List Block} (h : List.Forall₂ Block.Same bs cs) :
    bs.map Block.buffer = cs.map Block.buffer := by
  induction h with
  | nil => rfl
  | cons hbc hrest ih => rw [List.map_cons, List.map_cons, hbc.buffer, ih]

theorem Same.live (h : m.Same n) : m.live = n.live := buffers_same h.blocks

theorem below?_same {bs cs : List Block} (h : List.Forall₂ Block.Same bs cs) (addr : UInt64) :
    Block.SameFound (below? addr bs) (below? addr cs) := by
  induction h with
  | nil => exact Block.SameFound.none
  | @cons b c bs cs hbc hrest ih =>
      rw [below?, below?]
      rcases ih with ⟨hb, hc⟩ | ⟨b', c', hb, hc, hfound⟩
      · rw [hb, hc]
        simp only [hbc.addr]
        split
        · exact Block.SameFound.some hbc
        · exact Block.SameFound.none
      · rw [hb, hc]
        simp only [hbc.addr, hfound.addr]
        split
        · exact Block.SameFound.some hbc
        · exact Block.SameFound.some hfound

theorem Same.holder? (h : m.Same n) (addr : UInt64) (len : Nat) :
    Block.SameFound (m.holder? addr len) (n.holder? addr len) := by
  rw [HostMemory.holder?, HostMemory.holder?]
  rcases below?_same h.blocks addr with ⟨hb, hc⟩ | ⟨b, c, hb, hc, hbc⟩
  · rw [hb, hc]
    exact Block.SameFound.none
  · rw [hb, hc, Option.filter_some, Option.filter_some, hbc.holds addr len]
    split
    · exact Block.SameFound.some hbc
    · exact Block.SameFound.none

theorem Same.staged (h : m.Same n) (addr : UInt64) (len : Nat) :
    m.staged addr len = n.staged addr len := by
  rw [HostMemory.staged, HostMemory.staged]
  rcases h.holder? addr len with ⟨hb, hc⟩ | ⟨b, c, hb, hc, -⟩
  · rw [hb, hc]
  · rw [hb, hc, Option.isSome_some, Option.isSome_some]

theorem Same.read? (h : m.Same n) (addr : UInt64) (len : Nat) :
    (m.read? addr len).map Bytes.toList = (n.read? addr len).map Bytes.toList := by
  rw [HostMemory.read?, HostMemory.read?]
  rcases h.holder? addr len with ⟨hb, hc⟩ | ⟨b, c, hb, hc, hbc⟩
  · rw [hb, hc]
  · rw [hb, hc, Option.map_some, Option.map_some, Option.map_some, Option.map_some, hbc.addr,
      Bytes.slice_congr _ _ hbc.bytes]

theorem find?_same {bs cs : List Block} (h : List.Forall₂ Block.Same bs cs) (addr : UInt64) :
    Block.SameFound (bs.find? fun c => c.addr == addr) (cs.find? fun c => c.addr == addr) := by
  induction h with
  | nil => exact Block.SameFound.none
  | @cons b c bs cs hbc hrest ih =>
      rw [List.find?_cons, List.find?_cons, hbc.addr]
      split
      · exact Block.SameFound.some hbc
      · exact ih

theorem Same.contents? (h : m.Same n) (b : HostBuffer) :
    (m.contents? b).map Bytes.toList = (n.contents? b).map Bytes.toList := by
  rw [HostMemory.contents?, HostMemory.contents?]
  rcases find?_same h.blocks b.addr with ⟨hb, hc⟩ | ⟨b', c', hb, hc, hbc⟩
  · rw [hb, hc]
  · rw [hb, hc]
    exact congrArg some hbc.bytes

/-! ### What changes -/

/-- The same request is refused for the same reason or granted at the same place. -/
theorem Same.allocate (h : m.Same n) (A : Allocator) (size : Nat) :
    (∃ fault, m.allocate A size = .error fault ∧ n.allocate A size = .error fault) ∨
      ∃ b m' n', m.allocate A size = .ok (b, m') ∧ n.allocate A size = .ok (b, n') ∧
        m'.Same n' := by
  rw [HostMemory.allocate, HostMemory.allocate, h.live, h.granted]
  split
  · exact Or.inl ⟨_, rfl, rfl⟩
  · split
    · exact Or.inl ⟨_, rfl, rfl⟩
    · split
      · exact Or.inl ⟨_, rfl, rfl⟩
      · exact Or.inr ⟨_, _, _, rfl, rfl, List.Forall₂.cons ⟨rfl, rfl⟩ h.blocks, rfl⟩

theorem Same.free (h : m.Same n) (b : HostBuffer) : (m.free b).Same (n.free b) := by
  refine ⟨?_, h.granted⟩
  refine List.rel_filter ?_ h.blocks
  intro c d hcd
  simp only [hcd.addr]

theorem Same.modify (h : m.Same n) {f g : Bytes → Bytes}
    (hfg : ∀ s t : Bytes, s.toList = t.toList → (f s).toList = (g t).toList) :
    (m.modify addr f).Same (n.modify addr g) := by
  refine ⟨?_, h.granted⟩
  refine List.rel_map ?_ h.blocks
  intro c d hcd
  simp only [hcd.addr]
  split
  · exact ⟨rfl, hfg _ _ hcd.bytes⟩
  · exact hcd

theorem Same.writeIfStaged (h : m.Same n) (addr : UInt64) (hd : d.toList = e.toList) :
    (m.writeIfStaged addr d).Same (n.writeIfStaged addr e) := by
  rw [HostMemory.writeIfStaged, HostMemory.writeIfStaged, HostMemory.write?, HostMemory.write?,
    Bytes.size_congr hd]
  rcases h.holder? addr e.size with ⟨hb, hc⟩ | ⟨b, c, hb, hc, hbc⟩
  · rw [hb, hc]
    exact h
  · rw [hb, hc, Option.map_some, Option.map_some, Option.getD_some, Option.getD_some, hbc.addr]
    exact h.modify fun s t hst => Bytes.overwrite_congr _ hst hd

end HostMemory

end Offload
