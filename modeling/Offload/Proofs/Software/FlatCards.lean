/-
**Emulated cards with fixed memory.**

The software backend keeps the memory of a card as far as it was written.  Here is the same backend
with an array of 256 MiB for each card in its place, and the proof that nobody can tell the two
apart: whatever is asked of a machine with the one or with the other, it gives the same answers.

Main definitions:

* `FlatCards` — cards and actions, with an array for each card; `FlatCards.backend`;
* `FlatCards.ofCards` — the arrays that the cards of the software backend stand for;
* `FlatCards.Matches` — two machines, one with each backend, that look the same.

Main results:

* `FlatCards.perform_flat` — running a job comes to the same;
* `FlatCards.matches_react` — **so does every request**;
* `FlatCards.grown_memory_unobservable` — **so do any number of requests in any order**, what is
  kept of a card's memory never exceeds the array, and a job changes the memory of its own card
  only.
-/

import Offload.Backend.Software
import Offload.Proofs.Machine.Frame
import Offload.Proofs.Machine.Requests
import Offload.Proofs.Memory.Flat
import Offload.Proofs.Memory.Same
import Offload.Proofs.Software.Jobs

set_option relaxedAutoImplicit false
set_option autoImplicit false

namespace Offload

open Software (AttachedAction Cards cardOf)

/-- The array of every card ever opened, and every action ever attached. -/
structure FlatCards where
  memories : List FlatMemory
  actions : List AttachedAction

namespace FlatCards

/-! ### The backend -/

/-- No card, no action. -/
def none : FlatCards := ⟨[], []⟩

/-- The array of a card. -/
def memory (c : FlatCards) (card : Nat) : FlatMemory := (c.memories[card]?).getD .fresh

/-- The first `len` bytes of a region. -/
def readRegion (d : AddressDescriptor) (len : Nat) (host : HostMemory) (card : FlatMemory) :
    Option Bytes :=
  match d.space with
  | .hostDram => host.read? d.addr len
  | .cardDram => card.read? d.addr len
  | .nvme => .none

/-- The writes to host memory, and the array of the card, that put bytes at the start of a
region. -/
def writeRegion (d : AddressDescriptor) (bytes : Bytes) (host : HostMemory) (card : FlatMemory) :
    Option (List (UInt64 × Bytes) × FlatMemory) :=
  match d.space with
  | .hostDram => if host.staged d.addr bytes.size then some ([(d.addr, bytes)], card) else .none
  | .cardDram => (card.write? d.addr bytes).map ([], ·)
  | .nvme => .none

/-- What running a job comes to. -/
structure Performance where
  retc : UInt32
  writes : List (UInt64 × Bytes)
  card : FlatMemory
  log : List Log.Record

/-- Runs a job: all is read, put in upper case, and written; or nothing happens at all. -/
def perform (job : Job) (host : HostMemory) (card : FlatMemory) : Performance :=
  let fail (text : String) : Performance :=
    ⟨Job.failure, [], card, [Software.record .warn text]⟩
  if job.input.flags.isSource && job.output.flags.isDestination then
    let len := Software.jobLength job
    match readRegion job.input len host card with
    | .none => fail ("cannot read " ++ Software.regionText job.input len)
    | some d =>
      match writeRegion job.output d.upper host card with
      | .none => fail ("cannot write " ++ Software.regionText job.output len)
      | some (writes, card) =>
        ⟨Job.success, writes, card,
          [Software.record .debug ("changecase converted " ++ toString len ++ " bytes")]⟩
  else fail "changecase job is missing source or destination flags"

/-- Opens a card with an array of zeros. -/
def openCard (device : String) (c : FlatCards) : Reply FlatCards Nat where
  result := .ok c.memories.length
  state := { c with memories := c.memories ++ [.fresh] }
  log := [Software.record .info ("opened " ++ Text.quoted device ++ " in CPU mode")]

def attach (card : Nat) (device : String) (a : Attachment) (c : FlatCards) :
    Reply FlatCards Nat :=
  if a.type = changecaseType then
    { result := .ok c.actions.length
      state := { c with actions := c.actions ++ [⟨card, a.flags, .none⟩] }
      log := [Software.record .debug
        ("attached changecase action with flags " ++ a.flags.describe)] }
  else
    { result := .error (.attaching device a.type
        "the CPU backend only provides the changecase action")
      state := c
      log := [] }

def assignInterrupt (action : Nat) (source : UInt32) (c : FlatCards) : Reply FlatCards Unit where
  result := .ok ()
  state := { c with actions := c.actions.modify action ({ · with interrupt := some source }) }
  log := [Software.record .trace ("completion interrupt source set to 0x" ++
    Text.hex source.toNat)]

/-- Runs a job on an action; it touches the array of the action's card only. -/
def execute (action : Nat) (job : Job) (timeout : Nat) (host : HostMemory) (c : FlatCards) :
    Execution FlatCards :=
  let a := (c.actions[action]?).getD ⟨0, ⟨0⟩, .none⟩
  let result := perform job host (c.memory a.card)
  { result := .ok ()
    retc := result.retc
    writes := result.writes
    state := { c with memories := c.memories.set a.card result.card }
    log := Software.record .debug ("executing changecase job (" ++ Software.completion a ++
      ", timeout " ++ Software.showSeconds timeout ++ ")") :: result.log }

/-- The backend with an array for each card.  Letting go of a card or of an action changes
nothing. -/
def backend : Backend FlatCards where
  name := Device.software
  openCard := openCard
  attach := attach
  assignInterrupt := assignInterrupt
  execute := execute
  detach _ c := (c, [Software.record .trace "detaching changecase action"])
  release _ device c := (c, [Software.record .trace ("releasing " ++ Text.quoted device)])

/-! ### Running a job -/

variable {job : Job} {host host' : HostMemory} {card : CardMemory} {len : Nat}
  {d e : Bytes} {a : AddressDescriptor}

/-- Writes to the same addresses of the same bytes. -/
abbrev SameWrites : List (UInt64 × Bytes) → List (UInt64 × Bytes) → Prop :=
  List.Forall₂ fun w w' => w.1 = w'.1 ∧ w.2.toList = w'.2.toList

theorem readRegion_flat (h : host.Same host') (a : AddressDescriptor) (len : Nat)
    (card : CardMemory) :
    (Software.readRegion a len host card).map Bytes.toList =
      (readRegion a len host' card.flat).map Bytes.toList := by
  rw [Software.readRegion, readRegion]
  cases a.space with
  | hostDram => exact h.read? a.addr len
  | cardDram => exact CardMemory.toList_read? card a.addr len
  | nvme => rfl

/-- The same bytes are written where they can be written, and nowhere else. -/
theorem writeRegion_flat (h : host.Same host') (a : AddressDescriptor) (card : CardMemory)
    (hd : d.toList = e.toList) :
    (Software.writeRegion a d host card = .none ∧ writeRegion a e host' card.flat = .none) ∨
      ∃ writes writes' card', Software.writeRegion a d host card = some (writes, card') ∧
        writeRegion a e host' card.flat = some (writes', card'.flat) ∧
        SameWrites writes writes' ∧ (card.Bounded → card'.Bounded) := by
  rw [Software.writeRegion, writeRegion]
  cases a.space with
  | hostDram =>
      simp only [h.staged, Bytes.size_congr hd]
      split
      · exact Or.inr ⟨_, _, card, rfl, rfl, List.Forall₂.cons ⟨rfl, hd⟩ List.Forall₂.nil, id⟩
      · exact Or.inl ⟨rfl, rfl⟩
  | cardDram =>
      have hflat := CardMemory.flat_write? card a.addr hd
      cases hwrite : card.write? a.addr d with
      | none =>
          rw [hwrite] at hflat
          exact Or.inl ⟨rfl, by simp [← hflat]⟩
      | some card' =>
          rw [hwrite] at hflat
          exact Or.inr ⟨[], [], card', rfl, by simp [← hflat], List.Forall₂.nil,
            fun hb => CardMemory.bounded_write? hb hwrite⟩
  | nvme => exact Or.inl ⟨rfl, rfl⟩

/-- Two ways in which a job was run look the same. -/
structure Performance.Matches (r : Software.Performance) (r' : Performance) : Prop where
  retc : r.retc = r'.retc
  writes : SameWrites r.writes r'.writes
  card : r.card.flat = r'.card
  log : r.log = r'.log

/-- **Running a job comes to the same** with the array in place of the memory that grows, and what
is kept stays within the array. -/
theorem perform_flat (h : host.Same host') (job : Job) (card : CardMemory) :
    Performance.Matches (Software.perform job host card) (perform job host' card.flat) ∧
      (card.Bounded → (Software.perform job host card).card.Bounded) := by
  rw [Software.perform, perform]
  cases hflags : job.input.flags.isSource && job.output.flags.isDestination with
  | false => exact ⟨⟨rfl, List.Forall₂.nil, rfl, rfl⟩, id⟩
  | true =>
      -- What is read decides what is written, so the two reads are compared first.
      have hread := readRegion_flat h job.input (Software.jobLength job) card
      simp only [if_true]
      cases hd : Software.readRegion job.input (Software.jobLength job) host card with
      | none =>
          have he : readRegion job.input (Software.jobLength job) host' card.flat = .none := by
            simpa [hd] using hread.symm
          rw [he]
          exact ⟨⟨rfl, List.Forall₂.nil, rfl, rfl⟩, id⟩
      | some d =>
          rw [hd, Option.map_some] at hread
          obtain ⟨e, he, hde⟩ := Option.map_eq_some_iff.1 hread.symm
          have hupper : d.upper.toList = e.upper.toList := by
            rw [Bytes.toList_upper, Bytes.toList_upper, hde]
          rw [he]
          rcases writeRegion_flat h job.output card hupper with ⟨hw, hw'⟩ |
            ⟨writes, writes', card', hw, hw', hsame, hbounded⟩
          · simp only [hw, hw']
            exact ⟨⟨rfl, List.Forall₂.nil, rfl, rfl⟩, id⟩
          · simp only [hw, hw']
            exact ⟨⟨rfl, hsame, rfl, rfl⟩, hbounded⟩

theorem applyWrites_same {writes writes' : List (UInt64 × Bytes)} (hw : SameWrites writes writes')
    (h : host.Same host') :
    (Machine.applyWrites writes host).Same (Machine.applyWrites writes' host') := by
  -- One write keeps the memories alike, whatever is written after it.
  induction hw generalizing host host' with
  | nil => exact h
  | @cons w w' writes writes' hww' hrest ih =>
      obtain ⟨haddr, hbytes⟩ := hww'
      refine ih ?_
      simp only [haddr]
      exact h.writeIfStaged w'.1 hbytes

/-! ### The cards -/

/-- The arrays that the cards of the software backend stand for. -/
def ofCards (c : Cards) : FlatCards := ⟨c.memories.map CardMemory.flat, c.actions⟩

theorem ofCards_none : ofCards Cards.none = none := rfl

theorem memory_ofCards (c : Cards) (card : Nat) :
    (ofCards c).memory card = (c.memory card).flat := by
  rw [memory, ofCards, Cards.memory, List.getElem?_map]
  cases c.memories[card]? with
  | none => exact CardMemory.flat_fresh.symm
  | some m => rfl

/-- No more is kept of any card's memory than the array holds. -/
def Bounded (c : Cards) : Prop := ∀ m ∈ c.memories, m.Bounded

theorem Bounded.memory {c : Cards} (h : Bounded c) (card : Nat) : (c.memory card).Bounded := by
  rw [Cards.memory]
  cases hm : c.memories[card]? with
  | none => exact CardMemory.bounded_fresh
  | some m => exact h m (List.mem_of_getElem? hm)

theorem ofCards_openCard (device : String) (c : Cards) :
    ofCards (Software.openCard device c).state = (openCard device (ofCards c)).state := by
  rw [Software.openCard, openCard, ofCards, ofCards, List.map_append, List.map_singleton,
    CardMemory.flat_fresh]

theorem Bounded.openCard {c : Cards} (h : Bounded c) (device : String) :
    Bounded (Software.openCard device c).state := by
  intro m hm
  rcases List.mem_append.1 hm with hm | hm
  · exact h m hm
  · rw [List.mem_singleton.1 hm]
    exact CardMemory.bounded_fresh

theorem Bounded.execute {c : Cards} (h : Bounded c) (action : Nat) (job : Job) (timeout : Nat)
    (host : HostMemory) : Bounded (Software.execute action job timeout host c).state := by
  intro m hm
  rcases List.mem_or_eq_of_mem_set hm with hm | rfl
  · exact h m hm
  · exact (perform_flat (HostMemory.Same.refl host) job _).2 (h.memory _)

/-- An action runs a job alike on the card and on the array that the card stands for. -/
theorem execute_ofCards (h : host.Same host') (action : Nat) (job : Job) (timeout : Nat)
    (c : Cards) :
    let r := Software.execute action job timeout host c
    let r' := execute action job timeout host' (ofCards c)
    r.result = r'.result ∧ r.retc = r'.retc ∧ SameWrites r.writes r'.writes ∧
      ofCards r.state = r'.state ∧ r.log = r'.log := by
  intro r r'
  obtain ⟨hretc, hwrites, hcard, hlog⟩ :=
    (perform_flat h job (c.memory ((c.actions[action]?).getD ⟨0, ⟨0⟩, .none⟩).card)).1
  rw [← memory_ofCards] at hretc hwrites hcard hlog
  refine ⟨rfl, hretc, hwrites, ?_, congrArg _ hlog⟩
  simp only [r, r', Software.execute, execute, ofCards, List.map_set] at hcard ⊢
  rw [hcard]

/-! ### Machines -/

/-- Two machines, one with the software backend and one with the array for each card, that look the
same. -/
structure Matches (m : Machine Cards) (n : Machine FlatCards) : Prop where
  memory : m.memory.Same n.memory
  files : m.files = n.files
  devices : ofCards m.devices = n.devices
  log : m.log = n.log
  events : m.events = n.events

variable {m : Machine Cards} {n : Machine FlatCards}

/-- **Every request is answered alike, and leaves machines that look the same.** -/
theorem matches_react (h : Matches m n) (A : Allocator) (r : Machine.Request) :
    (m.react A Software.backend r).1 = (n.react A backend r).1 ∧
      Matches (m.react A Software.backend r).2 (n.react A backend r).2 := by
  obtain ⟨memory, files, devices, log, events⟩ := m
  obtain ⟨memory', files', devices', log', events'⟩ := n
  obtain ⟨hmemory, hfiles, hdevices, hlog, hevents⟩ := h
  simp only at hmemory hfiles hdevices hlog hevents
  subst hfiles hdevices hlog hevents
  -- Only opening a card and executing a job look at what a card holds; for the requests to host
  -- memory it matters that the memories agree, and the other ones change the cards alike.
  cases r with
  | openCard device =>
      have hlen : (ofCards devices).memories.length = devices.memories.length :=
        List.length_map _
      rw [Machine.react, Machine.react,
        Machine.openCard_eq_ok (b := Software.backend) rfl (by simp) rfl,
        Machine.openCard_eq_ok (b := backend) rfl (by simp) rfl]
      refine ⟨congrArg (fun k => Machine.Reaction.number (.ok k)) hlen.symm, hmemory, rfl, ?_, rfl,
        rfl⟩
      exact ofCards_openCard device devices
  | attach card device a =>
      simp only [Machine.react, Machine.attach]
      by_cases ha : a.type = changecaseType
      · simp only [Software.backend, backend, Software.attach, attach, if_pos ha]
        exact ⟨rfl, hmemory, rfl, rfl, rfl, rfl⟩
      · simp only [Software.backend, backend, Software.attach, attach, if_neg ha]
        exact ⟨rfl, hmemory, rfl, rfl, rfl, rfl⟩
  | assignInterrupt action source => exact ⟨rfl, hmemory, rfl, rfl, rfl, rfl⟩
  | execute action job timeout =>
      obtain ⟨hresult, hretc, hwrites, hstate, hlog⟩ :=
        execute_ofCards hmemory action job timeout devices
      refine ⟨?_, applyWrites_same hwrites hmemory, rfl, hstate, congrArg (log ++ ·) hlog, rfl⟩
      simp only [Machine.react, Machine.execute]
      exact congrArg (fun retc => Machine.Reaction.ran _ { job with retc }) hretc
  | detach action => exact ⟨rfl, hmemory, rfl, rfl, rfl, rfl⟩
  | release card device => exact ⟨rfl, hmemory, rfl, rfl, rfl, rfl⟩
  | allocate size =>
      simp only [Machine.react, Machine.allocate]
      rcases hmemory.allocate A size with ⟨fault, hm, hn⟩ | ⟨b, m', n', hm, hn, hsame⟩
      · simp only [hm, hn]
        exact ⟨trivial, hmemory, rfl, rfl, rfl, rfl⟩
      · simp only [hm, hn]
        exact ⟨trivial, hsame, rfl, rfl, rfl, rfl⟩
  | free buffer => exact ⟨rfl, hmemory.free buffer, rfl, rfl, rfl, rfl⟩
  | fill buffer d =>
      have hfilled : (memory.modify buffer.addr (·.overwrite 0 d)).Same
          (memory'.modify buffer.addr (·.overwrite 0 d)) :=
        hmemory.modify fun s t hst => Bytes.overwrite_congr 0 hst rfl
      exact ⟨rfl, hfilled, rfl, rfl, rfl, rfl⟩
  | contents buffer =>
      refine ⟨congrArg Machine.Reaction.bytes ?_, hmemory, rfl, rfl, rfl, rfl⟩
      have hcontents := hmemory.contents? buffer
      rw [Machine.contents, Machine.contents]
      cases hm : memory.contents? buffer with
      | none =>
          rw [hm, Option.map_none, eq_comm, Option.map_eq_none_iff] at hcontents
          rw [hcontents]
      | some d =>
          rw [hm, Option.map_some] at hcontents
          obtain ⟨e, he, hde⟩ := Option.map_eq_some_iff.1 hcontents.symm
          rw [he]
          exact hde.symm

theorem matches_reactAll (A : Allocator) (requests : List Machine.Request) (h : Matches m n) :
    (Machine.reactAll A Software.backend requests m).1 =
        (Machine.reactAll A backend requests n).1 ∧
      Matches (Machine.reactAll A Software.backend requests m).2
        (Machine.reactAll A backend requests n).2 := by
  -- By induction on the requests: the machines look the same before each one.
  induction requests generalizing m n with
  | nil => exact ⟨rfl, h⟩
  | cons r rs ih =>
      obtain ⟨hfirst, hmatches⟩ := matches_react h A r
      obtain ⟨hrest, hfinal⟩ := ih hmatches
      rw [Machine.reactAll, Machine.reactAll]
      exact ⟨by rw [hfirst, hrest], hfinal⟩

theorem bounded_react (h : Bounded m.devices) (A : Allocator) (r : Machine.Request) :
    Bounded (m.react A Software.backend r).2.devices := by
  cases r with
  | openCard device =>
      rw [Machine.react, Machine.openCard_eq_ok (b := Software.backend) rfl (by simp) rfl]
      exact h.openCard device
  | attach card device a =>
      by_cases ha : a.type = changecaseType
      · simp only [Machine.react, Machine.attach, Software.backend, Software.attach, if_pos ha]
        exact h
      · simp only [Machine.react, Machine.attach, Software.backend, Software.attach, if_neg ha]
        exact h
  | assignInterrupt action source => exact h
  | execute action job timeout => exact h.execute action job timeout m.memory
  | detach action => exact h
  | release card device => exact h
  | allocate size =>
      simp only [Machine.react, Machine.allocate]
      cases m.memory.allocate A size <;> exact h
  | free buffer => exact h
  | fill buffer d => exact h
  | contents buffer => exact h

theorem bounded_reactAll (A : Allocator) (requests : List Machine.Request)
    (h : Bounded m.devices) :
    Bounded (Machine.reactAll A Software.backend requests m).2.devices := by
  induction requests generalizing m with
  | nil => exact h
  | cons r rs ih => exact ih (bounded_react h A r)

/-- A job changes the memory of its own card only. -/
theorem memories_execute_of_ne {c : Cards} {action card : Nat} (h : card ≠ cardOf c action)
    (job : Job) (timeout : Nat) (host : HostMemory) :
    (Software.execute action job timeout host c).state.memories[card]? = c.memories[card]? := by
  rw [Software.execute]
  exact List.getElem?_set_ne (Ne.symm h)

/-- **Memory that grows cannot be told from memory that is there from the start.**  Whatever is
asked of a machine with the software backend, the answers, host memory, files, log and record are
those of a machine on which every card has an array of 256 MiB of its own, and the memory that is
kept of each card stands for its array.  It never exceeds the array; a job changes the memory of its
own card only; and a write, of no bytes or of many, changes no read but those of its range. -/
theorem grown_memory_unobservable (A : Allocator) (host : HostMemory) (files : FileTree)
    (requests : List Machine.Request) :
    let grown := Machine.reactAll A Software.backend requests ⟨host, files, Cards.none, [], []⟩
    let flat := Machine.reactAll A backend requests ⟨host, files, none, [], []⟩
    grown.1 = flat.1 ∧ Matches grown.2 flat.2 ∧
      (∀ memory ∈ grown.2.devices.memories, memory.written.size ≤ CardMemory.limit) ∧
      (∀ action job timeout card, card ≠ cardOf grown.2.devices action →
        (grown.2.react A Software.backend (.execute action job timeout)).2.devices.memories[card]? =
          grown.2.devices.memories[card]?) ∧
      ∀ memory ∈ grown.2.devices.memories, ∀ addr d memory', memory.write? addr d = some memory' →
        ∀ start len, (d.size = 0 ∨ start.toNat + len ≤ addr.toNat ∨
            addr.toNat + d.size ≤ start.toNat) →
          (memory'.read? start len).map Bytes.toList =
            (memory.read? start len).map Bytes.toList := by
  intro grown flat
  have hstart : Matches ⟨host, files, Cards.none, [], []⟩ ⟨host, files, none, [], []⟩ :=
    ⟨HostMemory.Same.refl host, rfl, ofCards_none, rfl, rfl⟩
  have hnone : Bounded Cards.none := by
    intro m hm
    cases hm
  obtain ⟨hreactions, hmatches⟩ := matches_reactAll A requests hstart
  refine ⟨hreactions, hmatches, bounded_reactAll A requests hnone, ?_, ?_⟩
  · intro action job timeout card hcard
    exact memories_execute_of_ne hcard job timeout grown.2.memory
  · intro memory _ addr d memory' hwrite start len hapart
    exact CardMemory.read?_write?_of_apart hwrite hapart

end FlatCards

end Offload
