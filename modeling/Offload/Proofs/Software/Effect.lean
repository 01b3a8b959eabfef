/-
**The effect of one job on memory.**

A job of the software backend reads one range and writes another, each in host memory or in the
memory of its card.  Here it is said byte by byte what becomes of both memories, for any job: of any
addresses, lengths, spaces and flags, with ranges that overlap or run over the end of the address
space.  A job that cannot be done is answered with a return code and leaves every byte as it was.

Main definitions:

* `Software.Accessible` — a range that can be read and written;
* `Software.Doable` — a job whose flags and ranges are as they have to be;
* `Software.byteAt?`, `Software.cell` — the byte at an address of a space;
* `Software.Attached` — an action that is attached to a card that was opened;
* `Software.Effect` — what running a job comes to.

Main results:

* `Software.readRegion_cases`, `Software.writeRegion_cases` — a region is read and written exactly
  if it is accessible, and then a write changes its bytes and no others;
* `Software.attached_acquire`, `Software.Attached.react` — a session's action is attached, and stays
  so whatever is asked of the machine;
* `Software.execute_effect` — **the return code tells whether the job is doable; if it is, the
  target holds the upper case of what the source held before, and all else is as it was**.
-/

import Offload.Proofs.Machine.Requests
import Offload.Proofs.Memory.Cells
import Offload.Proofs.Software.Jobs

set_option relaxedAutoImplicit false
set_option autoImplicit false

namespace Offload

namespace Software

variable {host : HostMemory} {card : CardMemory} {space : AddressSpace} {addr : UInt64}
  {len i : Nat} {job : Job} {m : Machine Cards} {action : Nat}

/-! ### Ranges -/

/-- Can a range be read and written?  In host memory it has to lie inside one live buffer and must
not run over the end of the address space; on a card it has to end within the memory; and a storage
device has no range. -/
def Accessible (space : AddressSpace) (addr : UInt64) (len : Nat) (host : HostMemory) : Prop :=
  match space with
  | .hostDram => addr.toNat + len < UInt64.size ∧
      ∃ b ∈ host.live, b.addr.toNat ≤ addr.toNat ∧ addr.toNat + len ≤ b.stop
  | .cardDram => addr.toNat + len ≤ CardMemory.limit
  | .nvme => False

/-- The byte at an address of a space, if there is one. -/
def byteAt? (space : AddressSpace) (a : Nat) (host : HostMemory) (card : CardMemory) :
    Option UInt8 :=
  match space with
  | .hostDram => host.byteAt? a
  | .cardDram => if a < CardMemory.limit then some (card.byteAt a) else none
  | .nvme => none

/-- Every address of a range that is accessible has a byte. -/
theorem isSome_byteAt? (hhost : host.Sound) (h : Accessible space addr len host) (hi : i < len) :
    (byteAt? space (addr.toNat + i) host card).isSome = true := by
  cases space with
  | hostDram =>
      obtain ⟨-, b, hb, hle, hstop⟩ := h
      exact (HostMemory.isSome_byteAt?_iff hhost).2 ⟨b, hb, by omega, by omega⟩
  | cardDram =>
      have hlimit : addr.toNat + i < CardMemory.limit := by
        simp only [Accessible] at h
        omega
      rw [byteAt?, if_pos hlimit]
      rfl
  | nvme => exact h.elim

/-- **A region is read exactly if it is accessible**, and what is read are its bytes. -/
theorem readRegion_cases (hhost : host.Sound) (d : AddressDescriptor) (len : Nat)
    (card : CardMemory) :
    (Accessible d.space d.addr len host ∧ ∃ e, readRegion d len host card = some e ∧
        e.size = len ∧ ∀ i < len, e.toList[i]? = byteAt? d.space (d.addr.toNat + i) host card) ∨
      (¬Accessible d.space d.addr len host ∧ readRegion d len host card = none) := by
  obtain ⟨addr, size, space, flags⟩ := d
  cases space with
  | hostDram =>
      have hstaged : host.staged addr len = true ↔ Accessible .hostDram addr len host :=
        HostMemory.staged_iff_exists hhost
      rw [← HostMemory.isSome_read?] at hstaged
      simp only [readRegion]
      cases hread : host.read? addr len with
      | none =>
          rw [hread] at hstaged
          exact Or.inr ⟨fun h => (by cases hstaged.2 h), rfl⟩
      | some e =>
          rw [hread] at hstaged
          exact Or.inl ⟨hstaged.1 rfl, e, rfl, HostMemory.size_read? hread,
            fun i hi => HostMemory.getElem?_read? hhost hread hi⟩
  | cardDram =>
      have hlimit := CardMemory.isSome_read? addr len card
      have hbytes := CardMemory.toList_read?_eq card addr len
      simp only [readRegion]
      cases hread : card.read? addr len with
      | none =>
          rw [hread] at hlimit
          exact Or.inr ⟨fun h => (by cases hlimit.2 h), rfl⟩
      | some e =>
          rw [hread] at hlimit hbytes
          have hle : addr.toNat + len ≤ CardMemory.limit := hlimit.1 rfl
          rw [if_pos hle, Option.map_some, Option.some_inj] at hbytes
          refine Or.inl ⟨hle, e, rfl, CardMemory.size_read? hread, ?_⟩
          intro i hi
          rw [hbytes, List.getElem?_ofFn, dif_pos hi, byteAt?, if_pos (by omega)]
  | nvme => exact Or.inr ⟨id, rfl⟩

/-- **A region is written exactly if it is accessible**, and then its bytes change and no others. -/
theorem writeRegion_cases (hhost : host.Sound) (d : AddressDescriptor) (e : Bytes)
    (card : CardMemory) :
    (Accessible d.space d.addr e.size host ∧ ∃ writes card',
        writeRegion d e host card = some (writes, card') ∧
        ∀ space a, byteAt? space a (Machine.applyWrites writes host) card' =
          if space = d.space ∧ d.addr.toNat ≤ a ∧ a < d.addr.toNat + e.size then
            e.toList[a - d.addr.toNat]?
          else byteAt? space a host card) ∨
      (¬Accessible d.space d.addr e.size host ∧ writeRegion d e host card = none) := by
  obtain ⟨addr, size, space, flags⟩ := d
  cases space with
  | hostDram =>
      have hstaged : host.staged addr e.size = true ↔ Accessible .hostDram addr e.size host :=
        HostMemory.staged_iff_exists hhost
      simp only [writeRegion]
      by_cases h : host.staged addr e.size = true
      · rw [if_pos h]
        refine Or.inl ⟨hstaged.1 h, _, _, rfl, ?_⟩
        rw [← HostMemory.isSome_write?] at h
        obtain ⟨host', hwrite⟩ := Option.isSome_iff_exists.1 h
        have happly : Machine.applyWrites [(addr, e)] host = host' := by
          simp only [Machine.applyWrites, List.foldl_cons, List.foldl_nil,
            HostMemory.writeIfStaged, hwrite, Option.getD_some]
        intro space a
        rw [happly]
        cases space with
        | hostDram => simpa [byteAt?] using HostMemory.byteAt?_write? hhost hwrite a
        | cardDram => rfl
        | nvme => rfl
      · rw [if_neg h]
        exact Or.inr ⟨fun haccess => h (hstaged.2 haccess), rfl⟩
  | cardDram =>
      have hlimit := CardMemory.isSome_write? addr e card
      simp only [writeRegion]
      cases hwrite : card.write? addr e with
      | none =>
          rw [hwrite] at hlimit
          exact Or.inr ⟨fun h => (by cases hlimit.2 h), rfl⟩
      | some card' =>
          rw [hwrite] at hlimit
          have hle : addr.toNat + e.size ≤ CardMemory.limit := hlimit.1 rfl
          refine Or.inl ⟨hle, _, _, rfl, ?_⟩
          intro space a
          cases space with
          | hostDram => rfl
          | cardDram =>
              have hbyte := CardMemory.byteAt_write? hwrite a
              have hlength := Bytes.length_toList e
              by_cases hrange : addr.toNat ≤ a ∧ a < addr.toNat + e.size
              · rw [if_pos hrange] at hbyte
                rw [if_pos ⟨rfl, hrange⟩, byteAt?, if_pos (by omega), hbyte,
                  List.getElem?_eq_getElem (by omega), Option.getD_some]
              · rw [if_neg hrange] at hbyte
                rw [if_neg fun h => hrange h.2, byteAt?, byteAt?, hbyte]
          | nvme => rfl
  | nvme => exact Or.inr ⟨id, rfl⟩

/-! ### Jobs -/

/-- A job whose flags name its source and its target, both of which are accessible as far as the
shorter of the two reaches. -/
structure Doable (job : Job) (host : HostMemory) : Prop where
  source : job.input.flags.contains AddressFlags.address = true ∧
    job.input.flags.contains AddressFlags.source = true
  target : job.output.flags.contains AddressFlags.address = true ∧
    job.output.flags.contains AddressFlags.destination = true
  readable : Accessible job.input.space job.input.addr
    (min job.input.size.toNat job.output.size.toNat) host
  writable : Accessible job.output.space job.output.addr
    (min job.input.size.toNat job.output.size.toNat) host

/-- **What becomes of a job**: if it is doable, its target holds the upper case of its source and
all else is as it was; otherwise nothing happens at all. -/
theorem perform_effect (hhost : host.Sound) (job : Job) (card : CardMemory) :
    let run := perform job host card
    (Doable job host ∧ run.retc = Job.success ∧
        ∀ space a, byteAt? space a (Machine.applyWrites run.writes host) run.card =
          if space = job.output.space ∧ job.output.addr.toNat ≤ a ∧
              a < job.output.addr.toNat + jobLength job then
            (byteAt? job.input.space (job.input.addr.toNat + (a - job.output.addr.toNat)) host
              card).map upperByte
          else byteAt? space a host card) ∨
      (¬Doable job host ∧ run.retc = Job.failure ∧ run.writes = [] ∧ run.card = card) := by
  intro run
  have hread := readRegion_cases hhost job.input (jobLength job) card
  rcases perform_spec job host card with
    ⟨hsource, htarget, d, hd, hw, hretc⟩ | ⟨hno, hretc, hwrites, hcard⟩
  · rcases hread with ⟨hreadable, e, he, hsize, hbytes⟩ | ⟨-, hnone⟩
    · obtain rfl : d = e := Option.some_inj.1 (hd.symm.trans he)
      rcases writeRegion_cases hhost job.output d.upper card with
        ⟨hwritable, writes, card', hw', hafter⟩ | ⟨-, hnone⟩
      · have hpair : (writes, card') = (run.writes, run.card) :=
          Option.some_inj.1 (hw'.symm.trans hw)
        obtain ⟨rfl, rfl⟩ := Prod.mk.inj hpair
        rw [Bytes.size_upper, hsize] at hwritable hafter
        refine Or.inl ⟨⟨(job.input.flags.contains_or _ _).1 hsource,
          (job.output.flags.contains_or _ _).1 htarget, hreadable, hwritable⟩, hretc, ?_⟩
        intro space a
        rw [hafter]
        split
        · next hrange =>
            rw [Bytes.toList_upper, List.getElem?_map, hbytes _ (by omega)]
        · rfl
      · cases hnone.symm.trans hw
    · cases hnone.symm.trans hd
  · refine Or.inr ⟨?_, hretc, hwrites, hcard⟩
    intro hdoable
    rcases hread with ⟨-, d, hd, hsize, -⟩ | ⟨hnot, -⟩
    · have hnone := hno ((job.input.flags.contains_or _ _).2 hdoable.source)
        ((job.output.flags.contains_or _ _).2 hdoable.target) d hd
      rcases writeRegion_cases hhost job.output d.upper card with
        ⟨-, writes, card', hw, -⟩ | ⟨hnot, -⟩
      · cases hnone.symm.trans hw
      · rw [Bytes.size_upper, hsize] at hnot
        exact hnot hdoable.writable
    · exact hnot hdoable.readable

/-! ### Actions -/

/-- An action stays attached if no action moves to another card and no card disappears. -/
theorem Attached.of_grown {c c' : Cards} (h : Attached c action)
    (hactions : ∀ a, c.actions[action]? = some a →
      ∃ a', c'.actions[action]? = some a' ∧ a'.card = a.card)
    (hmemories : c.memories.length ≤ c'.memories.length) : Attached c' action := by
  obtain ⟨a, ha, hlt⟩ := h
  obtain ⟨a', ha', hcard⟩ := hactions a ha
  exact ⟨a', ha', by omega⟩

/-- **An action stays attached, whatever is asked of the machine.** -/
theorem Attached.react (h : Attached m.devices action) (A : Allocator) (r : Machine.Request) :
    Attached (m.react A backend r).2.devices action := by
  cases r with
  | openCard device =>
      rw [Machine.react, Machine.openCard_eq_ok (b := backend) rfl (by simp) rfl]
      have hlength : m.devices.memories.length ≤
          (m.devices.memories ++ [CardMemory.fresh]).length := by
        simp
      exact h.of_grown (fun a ha => ⟨a, ha, rfl⟩) hlength
  | attach card device a =>
      by_cases htype : a.type = changecaseType
      · simp only [Machine.react, Machine.attach, backend, Software.attach, if_pos htype]
        refine h.of_grown (fun x hx => ⟨x, ?_, rfl⟩) (Nat.le_refl _)
        have hlt := (List.getElem?_eq_some_iff.1 hx).1
        exact (List.getElem?_append_left hlt).trans hx
      · simp only [Machine.react, Machine.attach, backend, Software.attach, if_neg htype]
        exact h
  | assignInterrupt routed source =>
      exact h.of_grown (fun a ha => exists_assignInterrupt ha routed source) (Nat.le_refl _)
  | execute run job timeout =>
      have hlength : ∀ card : CardMemory, m.devices.memories.length ≤
          (m.devices.memories.set (cardOf m.devices run) card).length := by simp
      exact h.of_grown (fun a ha => ⟨a, ha, rfl⟩) (hlength _)
  | detach run => exact h
  | release card device => exact h
  | allocate size =>
      simp only [Machine.react, Machine.allocate]
      cases m.memory.allocate A size <;> exact h
  | free buffer => exact h
  | fill buffer d => exact h
  | contents buffer => exact h

/-- The byte that a job on an action finds at an address of a space. -/
def cell (action : Nat) (space : AddressSpace) (a : Nat) (m : Machine Cards) : Option UInt8 :=
  byteAt? space a m.memory (m.devices.memory (cardOf m.devices action))

/-- The machine after a job: host memory with the writes of the job, and the card of the action as
the job leaves it. -/
theorem cell_execute (h : Attached m.devices action) (job : Job) (timeout : Nat)
    (space : AddressSpace) (a : Nat) :
    let run := perform job m.memory (m.devices.memory (cardOf m.devices action))
    cell action space a (m.execute ⟨backend, action⟩ job timeout).2.2 =
      byteAt? space a (Machine.applyWrites run.writes m.memory) run.card := by
  intro run
  have hcard : (m.devices.memories.set (cardOf m.devices action) run.card)[cardOf m.devices
      action]? = some run.card := List.getElem?_set_self h.cardOf_lt
  have hmemory : (m.execute ⟨backend, action⟩ job timeout).2.2.devices.memory
      (cardOf m.devices action) = run.card := by
    rw [Cards.memory]
    exact congrArg (fun c : Option CardMemory => c.getD .fresh) hcard
  exact congrArg (byteAt? space a (Machine.applyWrites run.writes m.memory)) hmemory

/-! ### The effect -/

/-- What running a job on an action comes to: the result, the job that comes back and the machine
afterwards, against the machine before. -/
structure Effect (action : Nat) (job : Job) (m : Machine Cards) (r : Except Error Unit)
    (done : Job) (m' : Machine Cards) : Prop where
  /-- The request itself never fails, -/
  completes : r = .ok ()
  /-- and the parameters of the job come back as they were. -/
  parameters : done.input = job.input ∧ done.output = job.output
  /-- The job succeeds exactly if it is doable, -/
  success : done.retc = 0x102 ↔ Doable job m.memory
  /-- and there is one return code for failure. -/
  failure : ¬Doable job m.memory → done.retc = 0x104
  /-- After success the target holds the upper case of what the source held before, -/
  converted : Doable job m.memory →
    ∀ i < min job.input.size.toNat job.output.size.toNat, ∃ x,
      cell action job.input.space (job.input.addr.toNat + i) m = some x ∧
        cell action job.output.space (job.output.addr.toNat + i) m' = some (upperByte x)
  /-- every other byte of host memory and of the card is as it was, -/
  untouched : ∀ space a, ¬(space = job.output.space ∧ job.output.addr.toNat ≤ a ∧
      a < job.output.addr.toNat + min job.input.size.toNat job.output.size.toNat) →
    cell action space a m' = cell action space a m
  /-- and after failure so is everything. -/
  unchanged : ¬Doable job m.memory → m'.memory = m.memory ∧ m'.devices = m.devices
  /-- No buffer appears, disappears or moves, -/
  live : m'.memory.live = m.memory.live
  /-- no other card is touched, -/
  others : ∀ card, card ≠ cardOf m.devices action →
    m'.devices.memories[card]? = m.devices.memories[card]?
  /-- and no file is. -/
  files : m'.files = m.files

/-- **The effect of one job.**  Whatever buffers are live, whatever they and the card hold, and
whatever the job says, the job succeeds exactly if its flags name a source and a target that are
accessible as far as the shorter of the two reaches.  Then the target holds the upper case of what
the source held before, also where the two overlap, and no other byte changes; otherwise the return
code tells so and nothing changes at all. -/
theorem execute_effect (hm : m.memory.Sound) (haction : Attached m.devices action) (job : Job)
    (timeout : Nat) :
    let done := m.execute ⟨backend, action⟩ job timeout
    Effect action job m done.1 done.2.1 done.2.2 := by
  intro done
  have hcell := cell_execute haction job timeout
  have hlive : done.2.2.memory.live = m.memory.live := (Machine.sound_applyWrites _ hm).2
  have hothers : ∀ card, card ≠ cardOf m.devices action →
      done.2.2.devices.memories[card]? = m.devices.memories[card]? := by
    intro card hcard
    exact List.getElem?_set_ne (Ne.symm hcard)
  rcases perform_effect hm job (m.devices.memory (cardOf m.devices action)) with
    ⟨hdoable, hretc, hafter⟩ | ⟨hnot, hretc, hwrites, hcard⟩
  · have hcells : ∀ space a, cell action space a done.2.2 = _ :=
      fun space a => (hcell space a).trans (hafter space a)
    have hsuccess : done.2.1.retc = 0x102 := hretc
    refine ⟨rfl, ⟨rfl, rfl⟩, iff_of_true hsuccess hdoable, fun h => absurd hdoable h, ?_, ?_,
      fun h => absurd hdoable h, hlive, hothers, rfl⟩
    · intro _ i hi
      have hsome : (byteAt? job.input.space (job.input.addr.toNat + i) m.memory
          (m.devices.memory (cardOf m.devices action))).isSome = true :=
        isSome_byteAt? hm hdoable.readable hi
      obtain ⟨x, hx⟩ := Option.isSome_iff_exists.1 hsome
      refine ⟨x, hx, ?_⟩
      rw [hcells, if_pos ⟨rfl, Nat.le_add_right _ _, Nat.add_lt_add_left hi _⟩,
        Nat.add_sub_cancel_left, hx, Option.map_some]
    · intro space a hout
      rw [hcells]
      exact if_neg hout
  · have hfailure : done.2.1.retc = 0x104 := hretc
    have hmemory : done.2.2.memory = m.memory :=
      congrArg (fun writes => Machine.applyWrites writes m.memory) hwrites
    have hdevices : done.2.2.devices = m.devices := by
      have hset : m.devices.memories.set (cardOf m.devices action)
          (m.devices.memory (cardOf m.devices action)) = m.devices.memories := by
        rw [Cards.memory, List.getElem?_eq_getElem haction.cardOf_lt, Option.getD_some]
        exact List.set_getElem_self _
      rw [← hcard] at hset
      exact congrArg (fun memories => { m.devices with memories }) hset
    have hunchanged : ∀ space a, cell action space a done.2.2 = cell action space a m := by
      intro space a
      rw [cell, cell, hmemory, hdevices]
    refine ⟨rfl, ⟨rfl, rfl⟩, iff_of_false (by rw [hfailure]; decide) hnot, fun _ => hfailure,
      fun h => absurd h hnot, fun space a _ => hunchanged space a, fun _ => ⟨hmemory, hdevices⟩,
      hlive, hothers, rfl⟩

/-- A job whose target overlaps its source, two bytes further on: what it writes is what the source
held before, and not what was written there meanwhile. -/
theorem execute_effect_overlapping :
    let m : Machine Cards := ⟨⟨[⟨0x10000, .ofList [97, 98, 99, 100, 101, 102, 103, 104]⟩], 1⟩,
      .fresh, ⟨[.fresh], [⟨0, ⟨0⟩, none⟩]⟩, [], []⟩
    let job : Job := ⟨7, ⟨0x10000, 5, .hostDram, .ofSource⟩,
      ⟨0x10002, 9, .hostDram, .ofDestination⟩⟩
    let done := m.execute ⟨backend, 0⟩ job 600
    m.memory.Sound ∧ Attached m.devices 0 ∧ done.1 = .ok () ∧ done.2.1.retc = 0x102 ∧
      (done.2.2.memory.contents? ⟨0x10000, 8⟩).map Bytes.toList =
        some [97, 98, 65, 66, 67, 68, 69, 104] := by
  intro m job done
  have hsound : m.memory.Sound := by
    refine ⟨?_, List.pairwise_singleton _ _⟩
    intro b hb
    obtain rfl := List.mem_singleton.1 hb
    exact ⟨by decide, by decide, by decide⟩
  have hattached : Attached m.devices 0 := ⟨_, rfl, by decide⟩
  have heffect : Effect 0 job m done.1 done.2.1 done.2.2 :=
    execute_effect hsound hattached job 600
  have hrange : ∀ addr : UInt64, addr = 0x10000 ∨ addr = 0x10002 →
      Accessible .hostDram addr 5 m.memory := by
    rintro addr (rfl | rfl)
    · exact ⟨by decide, _, List.mem_singleton_self _, by decide, by decide⟩
    · exact ⟨by decide, _, List.mem_singleton_self _, by decide, by decide⟩
  have hdoable : Doable job m.memory :=
    ⟨by decide, by decide, hrange _ (Or.inl rfl), hrange _ (Or.inr rfl)⟩
  exact ⟨hsound, hattached, heffect.completes, heffect.success.2 hdoable, by decide +kernel⟩

end Software

end Offload
