/-
**The software backend.**

An emulated card runs one action, which copies the region to read to the region to write with its
ASCII letters in upper case.  Host addresses have to lie in a live buffer; a card has memory of its
own, shared by the actions attached to it; storage devices are not emulated.  A job that cannot be
done is answered with the return code for failure, not with an error.

Main definitions:

* `Software.Cards` — the cards and actions of the backend;
* `Software.readRegion`, `Software.writeRegion` — what a descriptor refers to;
* `Software.perform` — running one job;
* `Software.backend` — the backend.

Main results:

* `Software.perform_retc` — a job succeeds or fails, and there is no third return code.
-/

import Offload.Backend
import Offload.Device
import Offload.Memory.Card

set_option relaxedAutoImplicit false
set_option autoImplicit false

namespace Offload

/-- The type of the action that changes case. -/
def changecaseType : UInt32 := 0x10141008

namespace Software

/-! ### Cards and actions -/

/-- An attached action: its card, its flags, and where its interrupt comes from. -/
structure AttachedAction where
  card : Nat
  flags : ActionFlags
  interrupt : Option UInt32

/-- The memory of every card ever opened and every action ever attached, in order.  An action may
outlive the card it is attached to, and keeps the memory of that card. -/
structure Cards where
  memories : List CardMemory
  actions : List AttachedAction

/-- No card, no action. -/
def Cards.none : Cards := ⟨[], []⟩

/-- The memory of a card. -/
def Cards.memory (c : Cards) (card : Nat) : CardMemory := (c.memories[card]?).getD .fresh

/-- A record of the backend. -/
def record (level : Log.Level) (text : String) : Log.Record := ⟨level, .software, text⟩

/-! ### Running a job -/

/-- The first `len` bytes of a region. -/
def readRegion (d : AddressDescriptor) (len : Nat) (host : HostMemory) (card : CardMemory) :
    Option Bytes :=
  match d.space with
  | .hostDram => host.read? d.addr len
  | .cardDram => card.read? d.addr len
  | .nvme => none

/-- The writes to host memory, and the memory of the card, that put bytes at the start of a
region. -/
def writeRegion (d : AddressDescriptor) (bytes : Bytes) (host : HostMemory) (card : CardMemory) :
    Option (List (UInt64 × Bytes) × CardMemory) :=
  match d.space with
  | .hostDram => if host.staged d.addr bytes.size then some ([(d.addr, bytes)], card) else none
  | .cardDram => (card.write? d.addr bytes).map ([], ·)
  | .nvme => none

/-- What running a job comes to. -/
structure Performance where
  retc : UInt32
  writes : List (UInt64 × Bytes)
  card : CardMemory
  log : List Log.Record

/-- The number of bytes that a job converts. -/
def jobLength (job : Job) : Nat := min job.input.size.toNat job.output.size.toNat

/-- What is logged of a region that is not accessible. -/
def regionText (d : AddressDescriptor) (len : Nat) : String :=
  toString len ++ " bytes at 0x" ++ Text.paddedHex 16 d.addr.toNat ++ " in " ++ d.space.name

/-- Runs a job.  Nothing is written unless everything can be read and written. -/
def perform (job : Job) (host : HostMemory) (card : CardMemory) : Performance :=
  let fail (text : String) : Performance := ⟨Job.failure, [], card, [record .warn text]⟩
  if job.input.flags.isSource && job.output.flags.isDestination then
    let len := jobLength job
    -- All is read before anything is written, so the regions may overlap.
    match readRegion job.input len host card with
    | none => fail ("cannot read " ++ regionText job.input len)
    | some d =>
      match writeRegion job.output d.upper host card with
      | none => fail ("cannot write " ++ regionText job.output len)
      | some (writes, card) =>
        ⟨Job.success, writes, card,
          [record .debug ("changecase converted " ++ toString len ++ " bytes")]⟩
  else fail "changecase job is missing source or destination flags"

/-- A job succeeds or fails. -/
theorem perform_retc (job : Job) (host : HostMemory) (card : CardMemory) :
    (perform job host card).retc = Job.success ∨ (perform job host card).retc = Job.failure := by
  simp only [perform]
  split
  · split
    · exact Or.inr rfl
    · split
      · exact Or.inr rfl
      · exact Or.inl rfl
  · exact Or.inr rfl

/-! ### The backend -/

/-- How the completion of a job is waited for. -/
def completion (a : AttachedAction) : String :=
  match a.flags.signalsDone, a.interrupt with
  | true, some source => "interrupt 0x" ++ Text.hex source.toNat
  | _, _ => "polling"

/-- A time in whole seconds. -/
def showSeconds (seconds : Nat) : String :=
  if seconds = 0 then "0ns" else toString seconds ++ "s"

/-- Opens an emulated card; any device will do. -/
def openCard (device : String) (c : Cards) : Reply Cards Nat where
  result := .ok c.memories.length
  state := { c with memories := c.memories ++ [.fresh] }
  log := [record .info ("opened " ++ Text.quoted device ++ " in CPU mode")]

/-- Attaches the action that changes case; there is no other. -/
def attach (card : Nat) (device : String) (a : Attachment) (c : Cards) : Reply Cards Nat :=
  if a.type = changecaseType then
    { result := .ok c.actions.length
      state := { c with actions := c.actions ++ [⟨card, a.flags, none⟩] }
      log := [record .debug ("attached changecase action with flags " ++ a.flags.describe)] }
  else
    { result := .error (.attaching device a.type
        "the CPU backend only provides the changecase action")
      state := c
      log := [] }

/-- Routes the interrupt of an action. -/
def assignInterrupt (action : Nat) (source : UInt32) (c : Cards) : Reply Cards Unit where
  result := .ok ()
  state := { c with actions := c.actions.modify action ({ · with interrupt := some source }) }
  log := [record .trace ("completion interrupt source set to 0x" ++ Text.hex source.toNat)]

/-- Runs a job on an action.  It always completes; how it went is in the return code. -/
def execute (action : Nat) (job : Job) (timeout : Nat) (host : HostMemory) (c : Cards) :
    Execution Cards :=
  let a := (c.actions[action]?).getD ⟨0, ⟨0⟩, none⟩
  let result := perform job host (c.memory a.card)
  { result := .ok ()
    retc := result.retc
    writes := result.writes
    state := { c with memories := c.memories.set a.card result.card }
    log := record .debug ("executing changecase job (" ++ completion a ++ ", timeout " ++
      showSeconds timeout ++ ")") :: result.log }

/-- The backend that runs jobs in software. -/
def backend : Backend Cards where
  name := Device.software
  openCard := openCard
  attach := attach
  assignInterrupt := assignInterrupt
  execute := execute
  detach _ c := (c, [record .trace "detaching changecase action"])
  release _ device c := (c, [record .trace ("releasing " ++ Text.quoted device)])

end Software

end Offload
