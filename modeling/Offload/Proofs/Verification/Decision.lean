/-
**What a comparison decides.**

An output that is as long as the input or longer is the input with a guard behind it.  Comparing the
two passes exactly if the guard and nothing else was added, and the guard is zero.  Otherwise the
outcome tells two things that do not depend on one another: the least index at which the data
differs, and whether there is a byte in the guard that is not zero.  The buffers of a client are
always such an input and such an output.

Main definitions:

* `Verification.Findings` — what an outcome tells of an input and an output.

Main results:

* `Verification.findings_compare` — the findings of a comparison;
* `Client.Reachable.length_contents_le` — the output that a client has staged is at least as long as
  its input;
* `Verification.compare_decides` — **a comparison decides exactly**.
-/

import Offload.Proofs.Client.Invariant
import Offload.Proofs.Memory.Contents
import Offload.Proofs.Verification.Difference

set_option relaxedAutoImplicit false
set_option autoImplicit false

namespace Offload

/-! ### Findings -/

namespace Verification

variable {given found : List UInt8}

/-- What an outcome that does not pass tells of an input and an output. -/
structure Findings (given found : List UInt8) (first : Option Nat) (dirty : Bool) : Prop where
  /-- The index that is told is the least one within the input at which the output differs. -/
  first_iff : ∀ i, first = some i ↔ IsLeast {i | i < given.length ∧ found[i]? ≠ given[i]?} i
  /-- None is told if the output begins with the input. -/
  first_none_iff : first = none ↔ ∀ i < given.length, found[i]? = given[i]?
  /-- The guard is dirty if a byte behind the input is not zero. -/
  dirty_iff : dirty = true ↔ ∃ i b, given.length ≤ i ∧ found[i]? = some b ∧ b ≠ 0

/-- In an output that is long enough the input is what is compared. -/
theorem differsAt_iff (h : given.length ≤ found.length) (i : Nat) :
    DiffersAt given found i ↔ i < given.length ∧ found[i]? ≠ given[i]? := by
  rw [DiffersAt, Nat.min_eq_left h, ne_comm]

theorem differsAt_none_iff (h : given.length ≤ found.length) :
    (∀ i, ¬ DiffersAt given found i) ↔ ∀ i < given.length, found[i]? = given[i]? := by
  simp only [differsAt_iff h, not_and, ne_eq, Decidable.not_not]

theorem guardDirty_iff_exists :
    guardDirty given found = true ↔ ∃ i b, given.length ≤ i ∧ found[i]? = some b ∧ b ≠ 0 := by
  rw [guardDirty_iff]
  constructor
  · rintro ⟨b, hb, hne⟩
    obtain ⟨i, hi⟩ := List.mem_iff_getElem?.1 hb
    rw [List.getElem?_drop] at hi
    exact ⟨given.length + i, b, Nat.le_add_right _ _, hi, hne⟩
  · rintro ⟨i, b, hle, hi, hne⟩
    refine ⟨b, List.mem_iff_getElem?.2 ⟨i - given.length, ?_⟩, hne⟩
    rwa [List.getElem?_drop, Nat.add_sub_cancel' hle]

/-- **The findings of a comparison**, whatever it comes to. -/
theorem findings_compare (h : given.length ≤ found.length) :
    Findings given found (firstDifference given found) (guardDirty given found) where
  first_iff i := by simp only [firstDifference_isLeast, differsAt_iff h]
  first_none_iff := firstDifference_eq_none.trans (differsAt_none_iff h)
  dirty_iff := guardDirty_iff_exists

/-- A comparison passes if only zeros were added to the input, however many. -/
theorem compare_eq_passed_iff_exists (h : given.length ≤ found.length) :
    compare given found = .passed ↔ ∃ guard, found = given ++ List.replicate guard 0 := by
  have hlen : found.length = given.length + (found.length - given.length) := by omega
  constructor
  · intro hpassed
    exact ⟨_, (compare_eq_passed_iff hlen).1 hpassed⟩
  · rintro ⟨guard, hfound⟩
    exact (compare_eq_passed_iff (by simp [hfound])).2 hfound

end Verification

/-! ### The buffers of a client -/

/-- A buffer that is held has as many bytes as its owner asked for. -/
theorem Machine.Holding.size_contents {σ : Type} {held others : List HostBuffer} {m : Machine σ}
    {b : HostBuffer} (h : Machine.Holding held others m) (hb : b ∈ held) :
    (m.contents b).size = b.size := by
  obtain ⟨x, rfl, hx, -⟩ := h.sound.exists_block (h.mem_live hb)
  rw [Machine.contents, hx]
  rfl

namespace Client

variable {σ : Type} {o : Options} {c : Client σ} {m : Machine σ} {b b' : HostBuffer}

/-- **The output that a client has staged is at least as long as its input**, at any time. -/
theorem Reachable.length_contents_le (h : Reachable o c m) (hb : c.input = some b)
    (hb' : c.output = some b') :
    (m.contents b).toList.length ≤ (m.contents b').toList.length := by
  obtain ⟨hphase, others, hheld⟩ := h.holding
  have hst := hphase.staged_of_output hb'
  obtain ⟨hsize, -⟩ := hst.source_of_some hb
  obtain ⟨hroom, -⟩ := hst.target_of_some hb'
  rw [Bytes.length_toList, Bytes.length_toList, hheld.size_contents (mem_buffers_of_input hb),
    hheld.size_contents (mem_buffers_of_output hb'), hroom, hsize]
  exact Nat.le_add_right _ _

end Client

/-! ### The decision -/

namespace Verification

/-- **A comparison decides exactly**: it passes if nothing but zeros was added to the input, it
tells of a difference in the data and of a dirty guard each for itself, and it always compares.  The
buffers that a client has staged are fit to be compared. -/
theorem compare_decides :
    (∀ given found : List UInt8, given.length ≤ found.length →
      (compare given found = .passed ↔ ∃ guard, found = given ++ List.replicate guard 0) ∧
      (compare given found ≠ .passed → ∃ first dirty, compare given found = .mismatch first dirty ∧
        Findings given found first dirty) ∧
      compare given found ≠ .skipped) ∧
    ∀ (σ : Type) (o : Options) (c : Client σ) (m : Machine σ) (b b' : HostBuffer),
      Client.Reachable o c m → c.input = some b → c.output = some b' →
        (m.contents b).toList.length ≤ (m.contents b').toList.length := by
  refine ⟨?_, fun _ _ _ _ _ _ h => h.length_contents_le⟩
  intro given found h
  refine ⟨compare_eq_passed_iff_exists h, ?_, ?_⟩
  · intro hnot
    have heq := (compare_eq given found).resolve_left hnot
    exact ⟨_, _, heq, findings_compare h⟩
  · rcases compare_eq given found with heq | heq <;> rw [heq]
    · exact nofun
    · exact nofun

/-- The last byte of the data and the last one of the guard are wrong: both are told.  And a client
of the program that has staged a file holds two buffers that are fit to be compared. -/
theorem compare_decides_both :
    let files : FileTree := { entries := [([[97]], .file (.ofList [65, 98]))], workDir := [] }
    let o : Options := { Options.standard Device.software with input := some ⟨[97]⟩, verify := true }
    let staged := Client.afterCalls (Program.platform .slots 0)
      [.step .stageInput, .step .stageOutput] (Client.fresh o) (Program.start files)
    (compare [65, 66, 67] [65, 66, 99, 0, 1] = .mismatch (some 2) true ∧
      Findings [65, 66, 67] [65, 66, 99, 0, 1] (some 2) true) ∧
    ∃ b b', staged.1.input = some b ∧ staged.1.output = some b' ∧
      (staged.2.contents b).toList.length ≤ (staged.2.contents b').toList.length := by
  intro files o staged
  have hreachable : Client.Reachable o staged.1 staged.2 :=
    Client.reachable_afterCalls Allocator.sound_slots (.fresh HostMemory.sound_empty) _
  have hinput : staged.1.input.isSome = true := by decide +kernel
  have houtput : staged.1.output.isSome = true := by decide +kernel
  have heq : compare [65, 66, 67] [65, 66, 99, 0, 1] = .mismatch (some 2) true := by decide
  obtain ⟨-, hmismatch, -⟩ := compare_decides.1 [65, 66, 67] [65, 66, 99, 0, 1] (by decide)
  obtain ⟨first, dirty, heq', hfindings⟩ := hmismatch (by rw [heq]; exact nofun)
  obtain ⟨rfl, rfl⟩ : some 2 = first ∧ true = dirty := by simpa [heq] using heq'
  obtain ⟨b, hb⟩ := Option.isSome_iff_exists.1 hinput
  obtain ⟨b', hb'⟩ := Option.isSome_iff_exists.1 houtput
  exact ⟨⟨heq, hfindings⟩, b, b', hb, hb', compare_decides.2 _ o _ _ b b' hreachable hb hb'⟩

end Verification

end Offload
