/-
**One job on the software backend.**

A client whose buffers are staged opens a session on a fresh card and runs its job.  Here it is
shown what the job does: it succeeds exactly when its source and its target can be accessed, and
then the output buffer holds the data in upper case, with the guard behind it as it was.

Main definitions:

* `Options.hostAddresses` — the host addresses that a job uses as they were given;
* `Options.JobFits` — when source and target can be accessed;
* `Software.Executed` — what holds after the job.

Main results:

* `Software.readRegion_ready`, `Software.writeRegion_ready` — what a job reads, and what it writes;
* `Software.perform_buffers`, `Software.perform_staged` — what a job between two buffers does;
* `Software.execute_ready` — **a session and its job always complete, and the return code tells
  whether source and target fit**.
-/

import Offload.Proofs.Client.Prepare
import Offload.Proofs.Memory.Flat
import Offload.Proofs.Software.Jobs
import Mathlib.Data.List.OfFn

set_option relaxedAutoImplicit false
set_option autoImplicit false

namespace Offload

namespace Options

/-- The host addresses that a job uses as they were given, or zero where none was. -/
def hostAddresses (o : Options) : List UInt64 :=
  (if o.input = none ∧ o.sourceSpace = .hostDram then [o.sourceAddr.getD 0] else []) ++
    if o.stagesOutput = false ∧ o.targetSpace = .hostDram then [o.targetAddr.getD 0] else []

/-- The source of a job is the input file, or a range of the memory of a card. -/
def SourceFits (o : Options) (n : Nat) : Prop :=
  o.input.isSome = true ∨
    o.sourceSpace = .cardDram ∧ (o.sourceAddr.getD 0).toNat + n ≤ CardMemory.limit

/-- The target of a job is an output buffer, or a range of the memory of a card. -/
def TargetFits (o : Options) (n : Nat) : Prop :=
  o.stagesOutput = true ∨
    o.targetSpace = .cardDram ∧ (o.targetAddr.getD 0).toNat + n ≤ CardMemory.limit

/-- Both source and target of a job can be accessed. -/
def JobFits (o : Options) (t : FileTree) : Prop :=
  o.SourceFits (o.dataLength t) ∧ o.TargetFits (o.dataLength t)

/-- Upper case does not change the size. -/
theorem size_upper {t : FileTree} (o : Options) {d : Bytes}
    (hd : d.toList = (o.data t).map upperByte) : d.size = o.dataLength t := by
  rw [← Bytes.length_toList, hd, List.length_map, o.length_data]

/-- Without an input file the data are zeros. -/
theorem data_of_none {o : Options} {t : FileTree} (h : o.input = none) :
    o.data t = List.replicate (o.dataLength t) 0 := by
  rw [data, dataLength, h]

end Options

/-- The memory of a fresh card reads as zeros. -/
theorem CardMemory.toList_read?_fresh (addr : UInt64) (n : Nat) :
    (fresh.read? addr n).map Bytes.toList =
      if addr.toNat + n ≤ limit then some (List.replicate n 0) else none := by
  rw [toList_read?_eq]
  split
  · have hzero : ∀ i, fresh.byteAt i = 0 := fun i => by simp [byteAt, fresh]
    simp only [hzero, List.ofFn_const]
  · rfl

namespace Software

open Client (Ready Phase Staged)

variable {p : Platform Cards} {o : Options} {c : Client Cards} {start m : Machine Cards}
  {len : UInt32} {e : Bytes} {b : HostBuffer}

/-- No address that a job uses as it was given lies inside a live buffer or at the end of one. -/
def Clear (o : Options) (m : HostMemory) : Prop :=
  ∀ addr ∈ o.hostAddresses, ∀ b ∈ m.live, ¬(b.addr.toNat ≤ addr.toNat ∧ addr.toNat ≤ b.stop)

/-- What is read from the start of a buffer is the start of what it holds. -/
theorem readRegion_of_mem {host : HostMemory} {b : HostBuffer} {d : Bytes} {n : Nat}
    (hm : host.Sound) (hb : b ∈ host.live) (hd : host.contents? b = some d) (hn : n ≤ b.size)
    (len : UInt32) (flags : AddressFlags) (card : CardMemory) :
    readRegion ⟨b.addr, len, .hostDram, flags⟩ n host card = some (d.slice 0 n) := by
  rw [readRegion, HostMemory.read?_of_mem hm hb hn, hd]
  rfl

/-- What is written to the start of a buffer has its place there, if there is room for it. -/
theorem writeRegion_of_mem {host : HostMemory} (hm : host.Sound) (hb : b ∈ host.live)
    (he : e.size ≤ b.size) (len : UInt32) (flags : AddressFlags) (card : CardMemory) :
    writeRegion ⟨b.addr, len, .hostDram, flags⟩ e host card = some ([(b.addr, e)], card) := by
  have hstaged : host.staged b.addr e.size = true := by
    rw [← HostMemory.isSome_write?, HostMemory.write?_of_mem hm hb he]
    rfl
  simp only [writeRegion, hstaged, if_true]

/-- After a write to the start of a buffer, only the start of that buffer differs. -/
theorem applyWrites_of_mem {host : HostMemory} (hm : host.Sound) (hb : b ∈ host.live)
    (he : e.size ≤ b.size) :
    Machine.applyWrites [(b.addr, e)] host = host.modify b.addr (·.overwrite 0 e) := by
  have hwrite := HostMemory.write?_of_mem hm hb he
  simp only [Machine.applyWrites, List.foldl_cons, List.foldl_nil, HostMemory.writeIfStaged,
    hwrite, Option.getD_some]

/-- What is read at an address where no host memory is staged: zeros, if it is one of a fresh
card. -/
theorem readRegion_verbatim {host : HostMemory} {addr : UInt64} {space : AddressSpace} {n : Nat}
    (hunstaged : space = .hostDram → host.staged addr n = false) (len : UInt32)
    (flags : AddressFlags) :
    (∃ d, readRegion ⟨addr, len, space, flags⟩ n host .fresh = some d ∧
        d.toList = List.replicate n 0 ∧ space = .cardDram ∧ addr.toNat + n ≤ CardMemory.limit) ∨
      (readRegion ⟨addr, len, space, flags⟩ n host .fresh = none ∧
        ¬(space = .cardDram ∧ addr.toNat + n ≤ CardMemory.limit)) := by
  cases space with
  | hostDram =>
      have hnone := hunstaged rfl
      rw [← HostMemory.isSome_read?, Option.isSome_eq_false_iff, Option.isNone_iff_eq_none] at hnone
      exact Or.inr ⟨hnone, fun hcard => by cases hcard.1⟩
  | cardDram =>
      have hfresh := CardMemory.toList_read?_fresh addr n
      by_cases hlimit : addr.toNat + n ≤ CardMemory.limit
      · rw [if_pos hlimit, Option.map_eq_some_iff] at hfresh
        obtain ⟨d, hd, hzeros⟩ := hfresh
        exact Or.inl ⟨d, hd, hzeros, rfl, hlimit⟩
      · rw [if_neg hlimit, Option.map_eq_none_iff] at hfresh
        exact Or.inr ⟨hfresh, fun hcard => hlimit hcard.2⟩
  | nvme => exact Or.inr ⟨rfl, fun hcard => by cases hcard.1⟩

/-- **What a job reads**: the data, exactly if its source fits. -/
theorem readRegion_ready (h : Ready o start c m) (hclear : Clear o m.memory) (len : UInt32) :
    let region : AddressDescriptor := ⟨c.params.addrIn, len, c.params.spaceIn, .ofSource⟩
    (∃ d, readRegion region (o.dataLength start.files) m.memory .fresh = some d ∧
        d.toList = o.data start.files ∧ o.SourceFits (o.dataLength start.files)) ∨
      (readRegion region (o.dataLength start.files) m.memory .fresh = none ∧
        ¬o.SourceFits (o.dataLength start.files)) := by
  intro region
  rcases h.staged.source with ⟨b, hb, hinput, hspace, haddr, hsize⟩ | ⟨hb, hnone, hspace, haddr⟩
  · have hn : o.dataLength start.files = b.size := h.size.symm.trans hsize
    obtain ⟨d, hd, hdata⟩ := h.data b hb
    have hlive := h.holding.mem_live (Client.mem_buffers_of_input hb)
    have hread := readRegion_of_mem h.holding.sound hlive hd (Nat.le_of_eq hn) len .ofSource .fresh
    rw [← haddr, ← hspace] at hread
    refine Or.inl ⟨_, hread, ?_, Or.inl hinput⟩
    rw [Bytes.toList_slice, List.drop_zero, hdata, ← o.length_data, List.take_length]
  · have hunread : ¬o.input.isSome = true := by simp [hnone]
    have hunstaged : o.sourceSpace = .hostDram →
        m.memory.staged (o.sourceAddr.getD 0) (o.dataLength start.files) = false := by
      intro hhost
      refine HostMemory.staged_eq_false h.holding.sound (hclear _ ?_)
      simp [Options.hostAddresses, hnone, hhost]
    have hread := readRegion_verbatim hunstaged len .ofSource
    rw [← haddr, ← hspace] at hread
    rcases hread with ⟨d, hd, hzeros, hfits⟩ | ⟨hd, hnot⟩
    · rw [hspace, haddr] at hfits
      exact Or.inl ⟨d, hd, hzeros.trans (Options.data_of_none hnone).symm, Or.inr hfits⟩
    · rw [hspace, haddr] at hnot
      exact Or.inr ⟨hd, fun hfits => hfits.elim hunread hnot⟩

/-- What is written at an address where no host memory is staged goes to the card, if the address is
one of its memory. -/
theorem writeRegion_verbatim {host : HostMemory} {addr : UInt64} {space : AddressSpace}
    (hunstaged : space = .hostDram → host.staged addr e.size = false) (len : UInt32)
    (flags : AddressFlags) :
    (∃ card, writeRegion ⟨addr, len, space, flags⟩ e host .fresh = some ([], card) ∧
        space = .cardDram ∧ addr.toNat + e.size ≤ CardMemory.limit) ∨
      (writeRegion ⟨addr, len, space, flags⟩ e host .fresh = none ∧
        ¬(space = .cardDram ∧ addr.toNat + e.size ≤ CardMemory.limit)) := by
  cases space with
  | hostDram =>
      have hnone : writeRegion ⟨addr, len, .hostDram, flags⟩ e host .fresh = none := by
        simp only [writeRegion, hunstaged rfl, Bool.false_eq_true, if_false]
      exact Or.inr ⟨hnone, fun hcard => by cases hcard.1⟩
  | cardDram =>
      have hsome := CardMemory.isSome_write? addr e .fresh
      cases hw : CardMemory.fresh.write? addr e with
      | none =>
          rw [hw] at hsome
          refine Or.inr ⟨by simp only [writeRegion, hw, Option.map_none], ?_⟩
          rintro ⟨-, hlimit⟩
          cases hsome.2 hlimit
      | some card =>
          rw [hw] at hsome
          exact Or.inl ⟨card, by simp only [writeRegion, hw, Option.map_some], rfl, hsome.1 rfl⟩
  | nvme => exact Or.inr ⟨rfl, fun hcard => by cases hcard.1⟩

/-- **What a job writes**: the bytes it is given, to the start of the output buffer if there is one,
and somewhere at all exactly if its target fits. -/
theorem writeRegion_ready (h : Ready o start c m) (hclear : Clear o m.memory) (len : UInt32)
    (he : e.size = o.dataLength start.files) :
    let region : AddressDescriptor := ⟨c.params.addrOut, len, c.params.spaceOut, .ofDestination⟩
    (∃ card, writeRegion region e m.memory .fresh =
        some (c.output.toList.map fun b => (b.addr, e), card) ∧
        o.TargetFits (o.dataLength start.files)) ∨
      (writeRegion region e m.memory .fresh = none ∧ ¬o.TargetFits (o.dataLength start.files)) := by
  intro region
  rcases h.staged.target with ⟨b, hb, hstages, hspace, haddr, hsize⟩ | ⟨hb, hstages, hspace, haddr⟩
  · have hn : c.params.size = o.dataLength start.files := h.size
    have hlive := h.holding.mem_live (Client.mem_buffers_of_output hb)
    have hroom : e.size ≤ b.size := by omega
    refine Or.inl ⟨.fresh, ?_, Or.inl hstages⟩
    simp only [region, hspace, haddr, hb]
    exact writeRegion_of_mem h.holding.sound hlive hroom len .ofDestination .fresh
  · have hunwritten : ¬o.stagesOutput = true := by simp [hstages]
    have hunstaged : o.targetSpace = .hostDram →
        m.memory.staged (o.targetAddr.getD 0) e.size = false := by
      intro hhost
      refine HostMemory.staged_eq_false h.holding.sound (hclear _ ?_)
      simp [Options.hostAddresses, hstages, hhost]
    have hwrite := writeRegion_verbatim hunstaged len .ofDestination
    rw [← haddr, ← hspace, he] at hwrite
    rcases hwrite with ⟨card, hw, hfits⟩ | ⟨hw, hnot⟩
    · rw [hspace, haddr] at hfits
      exact Or.inl ⟨card, hb ▸ hw, Or.inr hfits⟩
    · rw [hspace, haddr] at hnot
      exact Or.inr ⟨hw, fun hfits => hfits.elim hunwritten hnot⟩

/-- **What becomes of the job**: it succeeds exactly if source and target fit, and then it writes
the data in upper case to the output buffer, if there is one. -/
theorem perform_ready (h : Ready o start c m) (hclear : Clear o m.memory)
    (hlen : len.toNat = o.dataLength start.files) :
    let job : Job := ⟨0, ⟨c.params.addrIn, len, c.params.spaceIn, .ofSource⟩,
      ⟨c.params.addrOut, len, c.params.spaceOut, .ofDestination⟩⟩
    ((perform job m.memory .fresh).retc = Job.success ∧ o.JobFits start.files ∧
        ∃ e, e.toList = (o.data start.files).map upperByte ∧
          (perform job m.memory .fresh).writes = c.output.toList.map fun b => (b.addr, e)) ∨
      ((perform job m.memory .fresh).retc = Job.failure ∧ ¬o.JobFits start.files) := by
  intro job
  have hjob : jobLength job = o.dataLength start.files := by
    rw [jobLength, Nat.min_self, hlen]
  have hread := readRegion_ready h hclear len
  have hsize : ∀ d : Bytes, d.toList = o.data start.files →
      d.upper.size = o.dataLength start.files := by
    intro d hd
    rw [Bytes.size_upper, ← Bytes.length_toList, hd, o.length_data]
  rcases perform_cases job m.memory .fresh rfl rfl with
    ⟨d, writes, card, hd, hw, hretc, hwrites⟩ | ⟨hno, hretc, -⟩
  · rw [hjob] at hd
    rcases hread with ⟨d', hd', hdata, hsource⟩ | ⟨hnone, -⟩
    · have hdd : d' = d := Option.some_inj.1 (hd'.symm.trans hd)
      subst hdd
      rcases writeRegion_ready h hclear len (hsize d' hdata) with ⟨card', hw', htarget⟩ | ⟨hw', -⟩
      · have hpair := Option.some_inj.1 (hw'.symm.trans hw)
        refine Or.inl ⟨hretc, ⟨hsource, htarget⟩, d'.upper, ?_, ?_⟩
        · rw [Bytes.toList_upper, hdata]
        · rw [hwrites]
          exact (congrArg Prod.fst hpair).symm
      · cases hw'.symm.trans hw
    · cases hnone.symm.trans hd
  · refine Or.inr ⟨hretc, ?_⟩
    rintro ⟨hsource, htarget⟩
    rcases hread with ⟨d, hd, hdata, -⟩ | ⟨-, hnot⟩
    · have hnone := hno d (hjob.symm ▸ hd)
      rcases writeRegion_ready h hclear len (hsize d hdata) with ⟨card, hw, -⟩ | ⟨-, hnot⟩
      · cases hw.symm.trans hnone
      · exact hnot htarget
    · exact hnot hsource

/-- A job between two live buffers succeeds, and puts the upper case of the first bytes of the one
at the start of the other. -/
theorem perform_buffers {host : HostMemory} {b b' : HostBuffer} {d : Bytes} {len : UInt32}
    (hhost : host.Sound) (hb : b ∈ host.live) (hb' : b' ∈ host.live)
    (hd : host.contents? b = some d) (hlen : len.toNat ≤ b.size) (hlen' : len.toNat ≤ b'.size)
    (card : CardMemory) :
    let job : Job := ⟨0, ⟨b.addr, len, .hostDram, .ofSource⟩,
      ⟨b'.addr, len, .hostDram, .ofDestination⟩⟩
    let run := perform job host card
    run.retc = Job.success ∧ Machine.applyWrites run.writes host =
      host.modify b'.addr (·.overwrite 0 (d.slice 0 len.toNat).upper) := by
  intro job run
  have hread : readRegion job.input (jobLength job) host card = some (d.slice 0 len.toNat) := by
    rw [jobLength, Nat.min_self]
    exact readRegion_of_mem hhost hb hd hlen len .ofSource card
  have hroom : (d.slice 0 len.toNat).upper.size ≤ b'.size := by
    rw [Bytes.size_upper, Bytes.size_slice]
    omega
  have hregion := writeRegion_of_mem hhost hb' hroom len .ofDestination card
  rcases perform_cases job host card rfl rfl with
    ⟨e, writes, card', he, hw, hretc, hwrites⟩ | ⟨hno, -⟩
  · obtain rfl : e = d.slice 0 len.toNat := Option.some_inj.1 (he.symm.trans hread)
    cases hregion.symm.trans hw
    exact ⟨hretc, hwrites ▸ applyWrites_of_mem hhost hb' hroom⟩
  · cases hregion.symm.trans (hno _ hread)

/-- After the write of a job that fits the output buffer, only the start of that buffer differs. -/
theorem applyWrites_output (h : Ready o start c m) (hb : c.output = some b)
    (he : e.size = o.dataLength start.files) :
    Machine.applyWrites (c.output.toList.map fun b => (b.addr, e)) m.memory =
      m.memory.modify b.addr (·.overwrite 0 e) := by
  have hroom := h.size_output hb
  have hlive := h.holding.mem_live (Client.mem_buffers_of_output hb)
  rw [hb]
  exact applyWrites_of_mem h.holding.sound hlive (by omega)

/-- A job leaves the input buffer alone. -/
theorem contents?_input (h : Ready o start c m) (he : e.size = o.dataLength start.files)
    (hb : c.input = some b) :
    (Machine.applyWrites (c.output.toList.map fun b => (b.addr, e)) m.memory).contents? b =
      m.memory.contents? b := by
  cases hout : c.output with
  | none => rfl
  | some b' =>
      rw [← hout, applyWrites_output h hout he]
      have hne := Client.addr_ne_of_holding h.holding hb hout
      exact HostMemory.contents?_modify_of_ne _ hne m.memory

/-- A job puts what it writes before the guard. -/
theorem contents?_output (h : Ready o start c m) (he : e.size = o.dataLength start.files)
    (hb : c.output = some b) :
    ∃ d, (Machine.applyWrites (c.output.toList.map fun b => (b.addr, e)) m.memory).contents? b =
        some d ∧ d.toList = e.toList ++ List.replicate o.guardLength 0 := by
  obtain ⟨z, hz, hzeros⟩ := h.room b hb
  refine ⟨z.overwrite 0 e, ?_, ?_⟩
  · rw [applyWrites_output h hb he, HostMemory.contents?_modify_self, hz]
    rfl
  · rw [Bytes.toList_overwrite, hzeros, he, List.take_zero, List.nil_append, List.drop_replicate,
      Nat.zero_add, Nat.add_sub_cancel_left]

/-- **A job from a staged input buffer to a staged output buffer succeeds**, leaves the input as it
is, and puts its upper case before the guard. -/
theorem perform_staged {b b' : HostBuffer} {job : Job} (h : Ready o start c m)
    (hb : c.input = some b) (hb' : c.output = some b') (hjob : Client.jobOf c.params = .ok job)
    (card : CardMemory) :
    let run := perform job m.memory card
    let host := Machine.applyWrites run.writes m.memory
    run.retc = Job.success ∧
      (∃ d, host.contents? b = some d ∧ d.toList = o.data start.files) ∧
      ∃ d, host.contents? b' = some d ∧
        d.toList = (o.data start.files).map upperByte ++ List.replicate o.guardLength 0 := by
  intro run host
  obtain ⟨hsize, hspace, haddr⟩ := h.staged.source_of_some hb
  obtain ⟨hroom, hspace', haddr'⟩ := h.staged.target_of_some hb'
  obtain ⟨len, hlen, hjob'⟩ := Client.jobOf_eq_ok h.staged.size_lt
  rw [hspace, haddr, hspace', haddr'] at hjob'
  cases hjob.symm.trans hjob'
  obtain ⟨d, hd, hdata⟩ := h.data b hb
  have hlive := h.holding.mem_live (Client.mem_buffers_of_input hb)
  have hlive' := h.holding.mem_live (Client.mem_buffers_of_output hb')
  have hread : len.toNat ≤ b.size := by omega
  have hwritten : len.toNat ≤ b'.size := by omega
  obtain ⟨hretc, hwrites⟩ := perform_buffers h.holding.sound hlive hlive' hd hread hwritten card
  have hupper : (d.slice 0 len.toNat).upper.toList = (o.data start.files).map upperByte := by
    rw [Bytes.toList_upper, Bytes.toList_slice, List.drop_zero, hdata, hlen, h.size,
      ← o.length_data, List.take_length]
  have hfits := o.size_upper hupper
  rw [← applyWrites_output h hb' hfits] at hwrites
  refine ⟨hretc, ?_, ?_⟩
  · refine ⟨d, ?_, hdata⟩
    exact (congrArg (HostMemory.contents? b) hwrites).trans ((contents?_input h hfits hb).trans hd)
  · obtain ⟨e, he, hresult⟩ := contents?_output h hfits hb'
    exact ⟨e, (congrArg (HostMemory.contents? b') hwrites).trans he, hupper ▸ hresult⟩

/-! ### Session and job -/

/-- A client whose job was run. -/
structure Executed (o : Options) (start : Machine Cards) (c : Client Cards) (m : Machine Cards) :
    Prop where
  phase : Phase o c
  stage : c.stage = .executed
  files : m.files = start.files
  size : c.params.size = o.dataLength start.files
  retc : ∃ job, c.job = some job ∧ (job.retc = Job.success ↔ o.JobFits start.files)
  data : o.JobFits start.files → ∀ b, c.input = some b →
    ∃ d, m.memory.contents? b = some d ∧ d.toList = o.data start.files
  result : o.JobFits start.files → ∀ b, c.output = some b → ∃ d, m.memory.contents? b = some d ∧
    d.toList = (o.data start.files).map upperByte ++ List.replicate o.guardLength 0

/-- **A session is always opened**, with a fresh card, and nothing that was staged changes. -/
theorem acquireSession_ready (hp : Registered p) (ho : o.backend = Device.software)
    (h : Ready o start c m) :
    ∃ s m₁, c.acquireSession p m =
        (.ok (), { c with stage := .sessionOpen, session := some s }, m₁) ∧
      m₁.memory = m.memory ∧ m₁.files = m.files ∧ Fresh s m₁.devices ∧ s.Held o.backend := by
  obtain ⟨s, m₁, hacquire, hmem, hfiles, hfresh⟩ := acquire_fresh hp o.card o.irq m
  have hheld : s.Held o.backend := ho ▸ Session.held_of_acquire hacquire
  refine ⟨s, m₁, ?_, hmem, hfiles, hfresh, hheld⟩
  rw [Client.acquireSession, Client.inStage, if_pos (by exact h.stage), h.phase.options]
  simp only [ho, hacquire]

/-- **A job on a session of the backend always completes**, whatever its return code. -/
theorem execute_eq {s : Session Cards} {number : Nat} {job : Job} (hstage : c.stage = .sessionOpen)
    (hs : c.session = some s) (haction : s.action = some ⟨backend, number⟩)
    (hjob : Client.jobOf c.params = .ok job) (m : Machine Cards) :
    let run := perform job m.memory (m.devices.memory (cardOf m.devices number))
    ∃ m', c.execute p m = (.ok (), { c with
          stage := .executed, job := some { job with retc := run.retc } }, m') ∧
      m'.files = m.files ∧ m'.memory = Machine.applyWrites run.writes m.memory := by
  intro run
  rcases Client.execute_session (p := p) hstage hs haction hjob m with
    ⟨e, c', m', hresult, -⟩ | ⟨m', -, hexecute, hmemory, hfiles⟩
  · cases hresult
  · exact ⟨m', hexecute, hfiles, hmemory⟩

theorem execute_fresh {s : Session Cards} (hstage : c.stage = .sessionOpen)
    (hs : c.session = some s) (hfresh : Fresh s m.devices) {job : Job}
    (hjob : Client.jobOf c.params = .ok job) :
    ∃ m', c.execute p m = (.ok (), { c with
          stage := .executed
          job := some { job with retc := (perform job m.memory .fresh).retc } }, m') ∧
      m'.files = m.files ∧
      m'.memory = Machine.applyWrites (perform job m.memory .fresh).writes m.memory := by
  obtain ⟨number, haction, hcard⟩ := hfresh
  rw [← hcard]
  exact execute_eq hstage hs haction hjob m

/-- **A session and its job always complete, and the return code tells whether source and target
fit.** -/
theorem execute_ready (hp : Registered p) (ho : o.backend = Device.software)
    (h : Ready o start c m) (hclear : Clear o m.memory) :
    ∃ c₁ m₁ c₂ m₂, c.acquireSession p m = (.ok (), c₁, m₁) ∧
      c₁.execute p m₁ = (.ok (), c₂, m₂) ∧ Executed o start c₂ m₂ := by
  obtain ⟨s, m₁, hacquire, hmem₁, hfiles₁, hfresh, hheld⟩ := acquireSession_ready hp ho h
  obtain ⟨len, hlen, hjob⟩ := Client.jobOf_eq_ok h.staged.size_lt
  obtain ⟨m₂, hexecute, hfiles₂, hmem₂⟩ := execute_fresh (p := p) (m := m₁)
    (c := { c with stage := .sessionOpen, session := some s }) rfl rfl hfresh hjob
  rw [hmem₁] at hexecute hmem₂
  refine ⟨_, m₁, _, m₂, hacquire, hexecute, ?_⟩
  have hphase := h.phase.executed_of_staged h.stage hheld hjob
  have hfiles : m₂.files = start.files := hfiles₂.trans (hfiles₁.trans h.files)
  rcases perform_ready h hclear (hlen.trans h.size) with
    ⟨hsuccess, hfits, e, he, hwrites⟩ | ⟨hfailure, hnot⟩
  · have hsize := o.size_upper he
    rw [hwrites] at hmem₂
    refine ⟨hphase _, rfl, hfiles, h.size, ⟨_, rfl, iff_of_true hsuccess hfits⟩, ?_, ?_⟩
    · intro _ b hb
      rw [hmem₂, contents?_input h hsize hb]
      exact h.data b hb
    · intro _ b hb
      rw [hmem₂, ← he]
      exact contents?_output h hsize hb
  · have hfailed := ne_of_eq_of_ne hfailure (by decide : Job.failure ≠ Job.success)
    exact ⟨hphase _, rfl, hfiles, h.size, ⟨_, rfl, iff_of_false hfailed hnot⟩,
      fun hfits => absurd hfits hnot, fun hfits => absurd hfits hnot⟩

end Software

end Offload
