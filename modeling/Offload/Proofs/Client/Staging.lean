/-
**Loading a file, taking an output buffer, and writing it to a file.**

Staging asks three things of the machine: the length of a file, a buffer of that length, and the
bytes of the file.  What a load comes to is spelled out here: when it succeeds, one buffer more is
live and holds the bytes of the file; when it fails, whatever was taken has been given back.  At the
other end of a run, the output file is written if the files allow it.

Main results:

* `Client.load_loadFile` — **what a load comes to**, in the five ways of `Client.Load`;
* `Client.holding_of_loadFile`, `Client.holding_of_loadFile_error`,
  `Client.holding_of_outputBuffer` — who holds what afterwards;
* `Client.writeOutput_cases` — **what writing the output comes to**.
-/

import Offload.Client
import Offload.Proofs.Files.Access
import Offload.Proofs.Machine.Frame

set_option relaxedAutoImplicit false
set_option autoImplicit false

namespace Offload

namespace Client

open Machine (Noted Holding)

variable {σ : Type} {p : Platform σ} {m m' : Machine σ} {path : Path} {b : HostBuffer} {e : Error}
  {size guard : Nat} {held others : List HostBuffer}

/-- **What loading a file comes to.**  The length is looked at first, then memory is taken, then
the file is read; a buffer whose file cannot be read is given back. -/
inductive Load (p : Platform σ) (path : Path) (m : Machine σ) :
    Except Error HostBuffer → Machine σ → Prop
  | unsized {cause : IoError} {m' : Machine σ} (hsize : m.files.fileSize path = .error cause)
      (hm : Noted m m') : Load p path m (.error (.sizing path cause)) m'
  | oversized {len : Nat} {m' : Machine σ} (hsize : m.files.fileSize path = .ok len)
      (hlen : UInt32.size ≤ len) (hm : Noted m m') :
      Load p path m (.error (.argument (.oversized len))) m'
  | refused {len : Nat} {fault : AllocFault} {m' : Machine σ}
      (hsize : m.files.fileSize path = .ok len) (hlen : len < UInt32.size)
      (halloc : m.memory.allocate p.allocator len = .error fault) (hm : Noted m m') :
      Load p path m (.error (.allocating len fault)) m'
  | unread {b : HostBuffer} {memory : HostMemory} {cause : IoError} {m' : Machine σ}
      (hsize : m.files.fileSize path = .ok b.size) (hlen : b.size < UInt32.size)
      (halloc : m.memory.allocate p.allocator b.size = .ok (b, memory))
      (hread : m.files.readExact path b.size = .error cause)
      (hm : Noted (({ m with memory }.recording (.allocated b)).free b) m') :
      Load p path m (.error (.reading path cause)) m'
  | loaded {b : HostBuffer} {memory : HostMemory} {d : Bytes} {m' : Machine σ}
      (hsize : m.files.fileSize path = .ok b.size) (hlen : b.size < UInt32.size)
      (halloc : m.memory.allocate p.allocator b.size = .ok (b, memory))
      (hread : m.files.readExact path b.size = .ok d)
      (hm : Noted (({ m with memory }.recording (.allocated b)).fill b d) m') :
      Load p path m (.ok b) m'

theorem load_loadFile {r : Except Error HostBuffer} (h : loadFile p path m = (r, m')) :
    Load p path m r m' := by
  rw [loadFile] at h
  rcases hsized : m.fileSize path with ⟨r₁, m₁⟩
  rw [hsized] at h
  obtain ⟨hm₁, ⟨cause, hsize, rfl⟩ | ⟨len, hsize, rfl⟩⟩ := Machine.fileSize_spec hsized
  · cases h
    exact Load.unsized hsize hm₁
  · simp only at h
    cases hn : descriptorLength len with
    | none =>
        simp only [hn] at h
        cases h
        exact Load.oversized hsize ((descriptorLength_eq_none_iff len).1 hn) hm₁
    | some n =>
        have hlt : len < UInt32.size := by
          rw [← descriptorLength_eq_some_iff.1 hn]
          exact n.toNat_lt
        simp only [hn] at h
        rcases Machine.allocate_spec p len m₁ with
          ⟨fault, hfault, heq⟩ | ⟨b, memory, hgrant, hok, hm₂⟩
        · rw [heq] at h
          cases h
          exact Load.refused hsize hlt (hm₁.memory ▸ hfault) hm₁
        · rcases halloc : m₁.allocate p len with ⟨r₂, m₂⟩
          rw [halloc] at h hok hm₂
          simp only at hok hm₂
          subst hok
          have hb : b.size = len := HostMemory.size_of_allocate hgrant
          subst hb
          rcases hreads : (m₂.note .info .client ("reading input data " ++ toString b.size ++
            " bytes from " ++ path.quoted)).readFile path b.size with ⟨r₃, m₃⟩
          simp only [hreads] at h
          obtain ⟨hm₃, hread⟩ := Machine.readFile_spec hreads
          have hfiles : m₂.files = m.files := hm₂.files.trans hm₁.files
          rw [Machine.files_note, hfiles] at hread
          have hm : Noted ({ m with memory }.recording (.allocated b)) m₃ :=
            ⟨hm₃.memory.trans hm₂.memory, hm₃.files.trans hfiles,
              hm₃.devices.trans (hm₂.devices.trans hm₁.devices),
              hm₃.events.trans (hm₂.events.trans (by simp [hm₁.events]))⟩
          rcases hread with ⟨cause, hread, rfl⟩ | ⟨d, hread, rfl⟩
          · cases h
            exact Load.unread hsize hlt (hm₁.memory ▸ hgrant) hread (hm.free b)
          · cases h
            exact Load.loaded hsize hlt (hm₁.memory ▸ hgrant) hread (hm.fill b d)

theorem events_of_loadFile (h : loadFile p path m = (.ok b, m')) :
    m'.events = m.events ++ [.allocated b] := by
  cases load_loadFile h with
  | loaded hsize hlen halloc hread hm => exact hm.events

theorem events_of_loadFile_error (h : loadFile p path m = (.error e, m')) :
    m'.events = m.events ∨ ∃ b, m'.events = m.events ++ [.allocated b, .freed b] := by
  cases load_loadFile h with
  | unsized hsize hm => exact Or.inl hm.events
  | oversized hsize hlen hm => exact Or.inl hm.events
  | refused hsize hlen halloc hm => exact Or.inl hm.events
  | @unread b memory cause m' hsize hlen halloc hread hm =>
      refine Or.inr ⟨b, ?_⟩
      rw [hm.events]
      simp

/-- Loading a file changes no file. -/
theorem files_of_loadFile {r : Except Error HostBuffer} (h : loadFile p path m = (r, m')) :
    m'.files = m.files := by
  cases load_loadFile h with
  | unsized hsize hm => exact hm.files
  | oversized hsize hlen hm => exact hm.files
  | refused hsize hlen halloc hm => exact hm.files
  | unread hsize hlen halloc hread hm => exact hm.files
  | loaded hsize hlen halloc hread hm => exact hm.files

/-- Loading a file calls no card. -/
theorem devices_of_loadFile {r : Except Error HostBuffer} (h : loadFile p path m = (r, m')) :
    m'.devices = m.devices := by
  cases load_loadFile h with
  | unsized hsize hm => exact hm.devices
  | oversized hsize hlen hm => exact hm.devices
  | refused hsize hlen halloc hm => exact hm.devices
  | unread hsize hlen halloc hread hm => exact hm.devices
  | loaded hsize hlen halloc hread hm => exact hm.devices

theorem size_of_loadFile (h : loadFile p path m = (.ok b, m')) : b.size < UInt32.size := by
  cases load_loadFile h with
  | loaded hsize hlen halloc hread hm => exact hlen

/-- The buffer of a file that was loaded is held. -/
theorem holding_of_loadFile (hA : p.allocator.Sound) (hm : Holding held others m)
    (h : loadFile p path m = (.ok b, m')) : Holding (b :: held) others m' := by
  cases load_loadFile h with
  | loaded hsize hlen halloc hread hm' =>
      have hgranted := hm.grant hA halloc
      have hd := FileTree.size_readExact hread
      exact (hgranted.fill (Nat.le_of_eq hd)).of_memory_eq hm'.memory

/-- After a load that failed the same buffers are held as before. -/
theorem holding_of_loadFile_error (hA : p.allocator.Sound) (hm : Holding held others m)
    (h : loadFile p path m = (.error e, m')) : Holding held others m' := by
  cases load_loadFile h with
  | unsized hsize hm' => exact hm.of_memory_eq hm'.memory
  | oversized hsize hlen hm' => exact hm.of_memory_eq hm'.memory
  | refused hsize hlen halloc hm' => exact hm.of_memory_eq hm'.memory
  | unread hsize hlen halloc hread hm' =>
      exact (hm.grant hA halloc).free.of_memory_eq hm'.memory

/-! ### The output buffer -/

theorem outputBuffer_ok (h : outputBuffer p size guard m = (.ok b, m')) :
    b.size = size + guard ∧ m.allocate p (size + guard) = (.ok b, m') := by
  rw [outputBuffer] at h
  split at h
  · obtain ⟨memory, hmem, -⟩ := Machine.allocate_ok_spec h
    exact ⟨HostMemory.size_of_allocate hmem, h⟩
  · cases h

/-- An output buffer is refused if its size is beyond all addresses, or if the memory refuses it. -/
theorem outputBuffer_error (h : outputBuffer p size guard m = (.error e, m')) :
    UInt64.size ≤ size + guard ∨ ∃ fault,
      m.memory.allocate p.allocator (size + guard) = .error fault ∧
        e = .allocating (size + guard) fault := by
  rw [outputBuffer] at h
  split at h
  · rcases Machine.allocate_spec p (size + guard) m with
      ⟨fault, hfault, heq⟩ | ⟨b, memory, -, hok, -⟩
    · cases heq.symm.trans h
      exact Or.inr ⟨fault, hfault, rfl⟩
    · rw [h] at hok
      cases hok
  · next hlarge => exact Or.inl (Nat.not_lt.1 hlarge)

theorem eq_of_outputBuffer_error (h : outputBuffer p size guard m = (.error e, m')) : m' = m := by
  rw [outputBuffer] at h
  split at h
  · exact Machine.eq_of_allocate_error h
  · cases h
    rfl

/-- Taking a buffer for the output changes no file. -/
theorem files_of_outputBuffer {r : Except Error HostBuffer}
    (h : outputBuffer p size guard m = (r, m')) : m'.files = m.files := by
  cases r with
  | error e => rw [eq_of_outputBuffer_error h]
  | ok b =>
      obtain ⟨memory, -, hnoted⟩ := Machine.allocate_ok_spec (outputBuffer_ok h).2
      exact hnoted.files

theorem holding_of_outputBuffer (hA : p.allocator.Sound) (hm : Holding held others m)
    (h : outputBuffer p size guard m = (.ok b, m')) : Holding (b :: held) others m' :=
  hm.allocate hA (outputBuffer_ok h).2

/-! ### The output file -/

/-- **What writing the output comes to**: it is done exactly if the file can be written. -/
theorem writeOutput_cases {c : Client σ} (hstage : c.stage = .executed)
    (hpath : c.options.output = some path) (hb : c.output = some b) (m : Machine σ) :
    let d := (m.contents b).take c.params.size
    (∃ files m', m.files.write path d = .ok files ∧ c.writeOutput m = (.ok (), c, m') ∧
        Noted { m with files } m') ∨
      ∃ cause m', m.files.write path d = .error cause ∧
        c.writeOutput m = c.fail (.writing d.size path cause) m' ∧ Noted m m' := by
  intro d
  rw [writeOutput, inStage, if_pos (by exact hstage)]
  simp only [hpath, hb]
  generalize hnote : Machine.note _ _ _ m = noted
  have hnoted : Noted m noted := hnote ▸ Machine.noted_note _ _ _ m
  have hdata : (noted.contents b).take c.params.size = d := by
    rw [Machine.contents, hnoted.memory]
    rfl
  have hspec := Machine.writeFile_spec path d noted
  rw [hdata]
  generalize noted.writeFile path d = result at hspec ⊢
  obtain ⟨r, m'⟩ := result
  rw [hnoted.files] at hspec
  rcases hspec with ⟨files, hwrite, rfl, hm'⟩ | ⟨cause, hwrite, rfl, hm'⟩
  · exact Or.inl ⟨files, m', hwrite, rfl,
      ⟨hm'.memory.trans hnoted.memory, hm'.files, hm'.devices.trans hnoted.devices,
        hm'.events.trans hnoted.events⟩⟩
  · exact Or.inr ⟨cause, m', hwrite, rfl, hnoted.trans hm'⟩

end Client

end Offload
