/-
**A workbench for buffers, cards and clients.**

On the bench lie named host buffers, cards and actions, at most one session and at most one client.
Commands put things there, use them and take them away; whatever is taken away is let go of as its
owner would.  Two backends are at hand, the software one and one that follows a script.

Main definitions:

* `Bench` — what lies on the bench; `Bench.fresh`, `Bench.unregistered` — an empty one;
* `Bench.Command`, `Bench.ClientCall` — what can be done;
* `Bench.perform` — doing it;
* `Bench.locate` — what an address means in terms of the named buffers;
* `Bench.clear` — letting go of everything.
-/

import Offload.Backend.Scripted
import Offload.Client.Call

set_option relaxedAutoImplicit false
set_option autoImplicit false

namespace Offload

/-! ### Named things -/

/-- Things with names, in the order of the names. -/
abbrev Shelf (α : Type) := List (String × α)

namespace Shelf

variable {α : Type}

/-- The shelf with a thing put under a name, in place of the one that may be there. -/
def put (name : String) (a : α) : Shelf α → Shelf α
  | [] => [(name, a)]
  | (n, b) :: rest =>
    if name = n then (name, a) :: rest
    else if name < n then (name, a) :: (n, b) :: rest
    else (n, b) :: put name a rest

/-- The shelf without the thing of a name. -/
def remove (name : String) (s : Shelf α) : Shelf α := s.filter fun e => e.1 != name

end Shelf

/-! ### The bench -/

/-- The states of the two backends. -/
structure BenchDevices where
  software : Software.Cards
  script : Script

/-- The backends of the bench. -/
def benchBackends : List (Backend BenchDevices) :=
  [Software.backend.within BenchDevices.software fun s d => { d with software := s },
   Scripted.backend.within BenchDevices.script fun s d => { d with script := s }]

/-- What lies on the bench. -/
structure Bench where
  platform : Platform BenchDevices
  machine : Machine BenchDevices
  buffers : Shelf HostBuffer
  cards : Shelf (Card BenchDevices)
  actions : Shelf (Action BenchDevices)
  session : Option (Session BenchDevices)
  client : Option (Client BenchDevices)

namespace Bench

/-- An empty bench with the given backends, over a tree of files.  Jobs take no time on it. -/
def ofBackends (backends : Option (List (Backend BenchDevices))) (files : FileTree) : Bench where
  platform := ⟨.slots, backends, 0⟩
  machine := ⟨.empty, files, ⟨.none, .faultless⟩, [], []⟩
  buffers := []
  cards := []
  actions := []
  session := none
  client := none

/-- An empty bench. -/
def fresh (files : FileTree) : Bench := ofBackends (some benchBackends) files

/-- An empty bench on which no backend was ever registered. -/
def unregistered (files : FileTree) : Bench := ofBackends none files

/-- The bench with a clean log and nothing on record. -/
def forgetNotes (b : Bench) : Bench :=
  { b with machine := { b.machine with log := [], events := [] } }

/-! ### Addresses -/

/-- An address as a command gives it; offsets are added modulo 2^64. -/
inductive AddressTerm where
  | absolute (addr : UInt64)
  /-- An offset from the start of a named buffer; from zero if there is none of that name. -/
  | fromBuffer (name : String) (offset : UInt64)
  /-- An offset from the source of the client's job. -/
  | fromSource (offset : UInt64)
  /-- An offset from the destination of the client's job. -/
  | fromTarget (offset : UInt64)

/-- The address that a term stands for. -/
def address (b : Bench) : AddressTerm → UInt64
  | .absolute addr => addr
  | .fromBuffer name offset => ((b.buffers.lookup name).elim 0 (·.addr)) + offset
  | .fromSource offset => (b.client.elim 0 (·.params.addrIn)) + offset
  | .fromTarget offset => (b.client.elim 0 (·.params.addrOut)) + offset

/-- What an address means. -/
inductive Place where
  /-- An offset into a named buffer, or its end. -/
  | inBuffer (name : String) (offset : Nat)
  /-- Some other address of the host. -/
  | host (aligned : Bool)
  /-- No address of the host. -/
  | plain (addr : UInt64)

/-- Is the address one that a host buffer can have? -/
def isHostAddress (addr : UInt64) : Bool :=
  Allocator.lowest ≤ addr.toNat && decide (addr.toNat < Allocator.ceiling)

/-- What an address means in terms of the named buffers. -/
def locate (b : Bench) (addr : UInt64) : Place :=
  match b.buffers.find? fun e => e.2.addr ≤ addr && decide (addr.toNat ≤ e.2.stop) with
  | some (name, buffer) => .inBuffer name (addr - buffer.addr).toNat
  | none =>
    if isHostAddress addr then .host (addr.toNat % HostBuffer.alignment = 0) else .plain addr

/-! ### Commands -/

/-- What can be done with the client on the bench. -/
inductive ClientCall where
  | call (call : Client.Call)
  | run
  | parameters
  | drop
  /-- Something that no client can do. -/
  | unknown

/-- A region of a job. -/
structure Region where
  addr : AddressTerm
  size : UInt32
  space : AddressSpace
  flags : AddressFlags

/-- What can be done on the bench. -/
inductive Command where
  | arrange (entries : List (Path × Entry))
  | remove (path : Path)
  | fileSize (path : Path)
  | readInto (path : Path) (len : Nat)
  | writeFile (path : Path) (d : Bytes)
  | makeBuffer (name : String) (size : Nat) (d : Bytes)
  | showBuffer (name : String)
  | freeBuffer (name : String)
  | isStaged (addr : AddressTerm) (len : Nat)
  | setScript (script : Script)
  | openCard (name backend device : String)
  | releaseCard (name : String)
  | attach (name card : String) (type : UInt32) (flags : ActionFlags)
  | detach (name : String)
  | assignInterrupt (name : String) (source : UInt32)
  | execute (name : String) (input output : Region) (retc : UInt32) (timeout : Nat)
  | acquireSession (backend : String) (card : UInt32) (irq : Bool)
  | releaseSession
  | dropSession
  | makeClient (options : Options) (source target : Option AddressTerm)
  | client (call : ClientCall)

/-- What a command comes to, when it succeeds. -/
inductive Answer where
  | nothing
  | text (s : String)
  | flag (b : Bool)
  | number (n : Nat)
  | bytes (d : Bytes)
  | buffer (b : HostBuffer)
  | job (j : Job)
  | client (a : Client.Answer)
  | parameters (p : Parameters)

/-- The result of a command, and the bench afterwards. -/
abbrev Outcome := Except Error Answer × Bench

/-! ### Buffers and files -/

/-- Frees a buffer that may be there. -/
def freeOld (old : Option HostBuffer) (m : Machine BenchDevices) : Machine BenchDevices :=
  match old with
  | some buffer => m.free buffer
  | none => m

/-- Makes a buffer with data at its start.  One of the same name is freed after the new one was
made. -/
def makeBuffer (b : Bench) (name : String) (size : Nat) (d : Bytes) : Outcome :=
  match b.machine.allocate b.platform size with
  | (.error e, machine) => (.error e, { b with machine })
  | (.ok buffer, machine) =>
    (.ok (.buffer buffer),
      { b with
        machine := freeOld (b.buffers.lookup name) (machine.fill buffer (d.take size))
        buffers := b.buffers.put name buffer })

/-- Frees a buffer. -/
def freeBuffer (b : Bench) (name : String) : Outcome :=
  match b.buffers.lookup name with
  | none => (.ok (.flag false), b)
  | some buffer =>
    (.ok (.flag true),
      { b with machine := b.machine.free buffer, buffers := b.buffers.remove name })

/-- Sets up files. -/
def arrange (b : Bench) (entries : List (Path × Entry)) : Bench :=
  { b with machine := { b.machine with
      files := entries.foldl (fun t e => t.arrange e.1 e.2) b.machine.files } }

/-- Takes a file, a link or a directory away. -/
def removeFile (b : Bench) (path : Path) : Outcome :=
  match b.machine.files.remove? path with
  | none => (.ok (.flag false), b)
  | some files => (.ok (.flag true), { b with machine := { b.machine with files } })

/-! ### Cards and actions -/

/-- Releases a card that may be there. -/
def releaseOld (old : Option (Card BenchDevices)) (m : Machine BenchDevices) :
    Machine BenchDevices :=
  match old with
  | some card => m.release card
  | none => m

/-- Detaches an action that may be there. -/
def detachOld (old : Option (Action BenchDevices)) (m : Machine BenchDevices) :
    Machine BenchDevices :=
  match old with
  | some action => m.detach action
  | none => m

/-- Opens a card. -/
def openCard (b : Bench) (name backend device : String) : Outcome :=
  match b.machine.openCard b.platform backend device with
  | (.error e, machine) => (.error e, { b with machine })
  | (.ok card, machine) =>
    (.ok (.text card.device),
      { b with
        machine := releaseOld (b.cards.lookup name) machine
        cards := b.cards.put name card })

/-- Attaches an action to a card. -/
def attach (b : Bench) (name card : String) (type : UInt32) (flags : ActionFlags) : Outcome :=
  match b.cards.lookup card with
  | none => (.ok (.text "no card"), b)
  | some card =>
    match b.machine.attach card ⟨type, flags, Session.attachTimeout⟩ with
    | (.error e, machine) => (.error e, { b with machine })
    | (.ok action, machine) =>
      (.ok .nothing,
        { b with
          machine := detachOld (b.actions.lookup name) machine
          actions := b.actions.put name action })

/-- The answer when there is no action of a name. -/
def noAction : Answer := .text "no action"

/-- Routes the interrupt of an action. -/
def assignInterrupt (b : Bench) (name : String) (source : UInt32) : Outcome :=
  match b.actions.lookup name with
  | none => (.ok noAction, b)
  | some action =>
    match b.machine.assignInterrupt action source with
    | (.error e, machine) => (.error e, { b with machine })
    | (.ok (), machine) => (.ok .nothing, { b with machine })

/-- The descriptor of a region. -/
def descriptor (b : Bench) (r : Region) : AddressDescriptor :=
  ⟨b.address r.addr, r.size, r.space, r.flags⟩

/-- Runs a job on an action. -/
def execute (b : Bench) (name : String) (input output : Region) (retc : UInt32) (timeout : Nat) :
    Outcome :=
  match b.actions.lookup name with
  | none => (.ok noAction, b)
  | some action =>
    match b.machine.execute action ⟨retc, b.descriptor input, b.descriptor output⟩ timeout with
    | (.error e, _, machine) => (.error e, { b with machine })
    | (.ok (), job, machine) => (.ok (.job job), { b with machine })

/-! ### Sessions and clients -/

/-- Acquires a session.  An earlier one is dropped after that. -/
def acquireSession (b : Bench) (backend : String) (card : UInt32) (irq : Bool) : Outcome :=
  match Session.acquire b.platform backend card irq b.machine with
  | (.error e, machine) => (.error e, { b with machine })
  | (.ok session, machine) =>
    (.ok .nothing,
      { b with machine := Client.releaseSession b.session machine, session := some session })

/-- Releases the session, which stays on the bench. -/
def releaseSession (b : Bench) : Outcome :=
  match b.session with
  | none => (.ok (.text "no session"), b)
  | some session =>
    let (session, machine) := session.release b.machine
    (.ok .nothing, { b with machine, session := some session })

/-- Lets go of the session. -/
def dropSession (b : Bench) : Bench :=
  { b with machine := Client.releaseSession b.session b.machine, session := none }

/-- Lets go of the client. -/
def dropClient (b : Bench) : Bench :=
  match b.client with
  | none => b
  | some client => { b with machine := client.drop b.machine, client := none }

/-- Makes a client; an earlier one is dropped. -/
def makeClient (b : Bench) (options : Options) (source target : Option AddressTerm) : Bench :=
  let options :=
    { options with sourceAddr := source.map b.address, targetAddr := target.map b.address }
  { b.dropClient with client := some (.fresh options) }

/-- The answer when there is no client that could do what is asked. -/
def noClient : Answer := .text "no client"

/-- Does something with the client. -/
def callClient (b : Bench) (call : ClientCall) : Outcome :=
  match b.client, call with
  | none, .parameters => (.ok .nothing, b)
  | none, .drop => (.ok .nothing, b)
  | none, _ => (.ok noClient, b)
  | some c, .call call =>
    let (result, c, machine) := c.answer b.platform b.machine call
    (result.map .client, { b with client := some c, machine })
  | some c, .run =>
    let (result, machine) := c.run b.platform b.machine
    (result.map fun r => .client (.report r), { b with client := none, machine })
  | some c, .parameters => (.ok (.parameters c.params), b)
  | some _, .drop => (.ok .nothing, b.dropClient)
  | some _, .unknown => (.ok noClient, b)

/-! ### Doing what a command says -/

/-- Does what a command says. -/
def perform (b : Bench) : Command → Outcome
  | .arrange entries => (.ok .nothing, b.arrange entries)
  | .remove path => b.removeFile path
  | .fileSize path =>
    let (result, machine) := b.machine.fileSize path
    (result.map .number, { b with machine })
  | .readInto path len =>
    let (result, machine) := b.machine.readFile path len
    (result.map .bytes, { b with machine })
  | .writeFile path d =>
    let (result, machine) := b.machine.writeFile path d
    (result.map fun _ => .nothing, { b with machine })
  | .makeBuffer name size d => b.makeBuffer name size d
  | .showBuffer name =>
    match b.buffers.lookup name with
    | none => (.ok .nothing, b)
    | some buffer => (.ok (.bytes (b.machine.contents buffer)), b)
  | .freeBuffer name => b.freeBuffer name
  | .isStaged addr len => (.ok (.flag (b.machine.memory.staged (b.address addr) len)), b)
  | .setScript script =>
    (.ok .nothing,
      { b with machine := { b.machine with devices := { b.machine.devices with script } } })
  | .openCard name backend device => b.openCard name backend device
  | .releaseCard name =>
    (.ok (.flag (b.cards.lookup name).isSome),
      { b with
        machine := releaseOld (b.cards.lookup name) b.machine
        cards := b.cards.remove name })
  | .attach name card type flags => b.attach name card type flags
  | .detach name =>
    (.ok (.flag (b.actions.lookup name).isSome),
      { b with
        machine := detachOld (b.actions.lookup name) b.machine
        actions := b.actions.remove name })
  | .assignInterrupt name source => b.assignInterrupt name source
  | .execute name input output retc timeout => b.execute name input output retc timeout
  | .acquireSession backend card irq => b.acquireSession backend card irq
  | .releaseSession => b.releaseSession
  | .dropSession => (.ok .nothing, b.dropSession)
  | .makeClient options source target => (.ok .nothing, b.makeClient options source target)
  | .client call => b.callClient call

/-- Lets go of everything: the client, the session, the actions, the cards and the buffers, each
kind by name. -/
def clear (b : Bench) : Bench :=
  let b := b.dropClient.dropSession
  -- Shelves are in the order of the names, and so is the release.
  let m := b.actions.foldl (fun m e => m.detach e.2) b.machine
  let m := b.cards.foldl (fun m e => m.release e.2) m
  let m := b.buffers.foldl (fun m e => m.free e.2) m
  { b with machine := m, actions := [], cards := [], buffers := [] }

/-! ### What a scripted card was asked -/

/-- A region of a job in words. -/
def describeRegion (d : AddressDescriptor) : String :=
  toString d.size.toNat ++ "/" ++ d.space.name ++ "/" ++ toString d.flags.bits.toNat

/-- A call on a card in words. -/
def describeCall : CardCall → String
  | .openCard device => "open " ++ device
  | .attach a =>
    "attach " ++ Text.paddedHex 8 a.type.toNat ++ " flags=" ++ toString a.flags.bits.toNat ++
      " timeout=" ++ toString a.timeout
  | .assignInterrupt source => "irq " ++ Text.hex source.toNat
  | .execute job timeout =>
    "execute in=" ++ describeRegion job.input ++ " out=" ++ describeRegion job.output ++
      " retc=" ++ Text.hex job.retc.toNat ++ " timeout=" ++ toString timeout
  | .detach => "detach"
  | .release => "release"

/-- The calls on record that went to scripted cards, in words. -/
def scriptedCalls (b : Bench) : List String :=
  b.machine.events.filterMap fun
    | .card backend call _ =>
      if backend = Scripted.backend.name then some (describeCall call) else none
    | _ => none

end Bench

end Offload
