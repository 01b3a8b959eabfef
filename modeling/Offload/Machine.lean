/-
**The machine that a client runs on.**

The machine has host memory, files and the state of its backends, and it keeps the log and a record
of every call on a card and of every buffer that is taken and given back.  All that a client does
to the world is done through the operations of this module, and each of them says what it logs.

Main definitions:

* `Platform` — the allocator, the registered backends and their speed, which never change;
* `Machine` — everything that does change; `Event` — what is recorded of it;
* `Machine.allocate`, `Machine.free`, `Machine.fill` — buffers;
* `Machine.fileSize`, `Machine.readFile`, `Machine.writeFile` — files;
* `Card`, `Action` — what is held of an open card and of an attached action;
* `Machine.openCard`, `Machine.attach`, `Machine.assignInterrupt`, `Machine.execute`,
  `Machine.detach`, `Machine.release` — calls on cards.
-/

import Offload.Backend
import Offload.Files.Access

set_option relaxedAutoImplicit false
set_option autoImplicit false

namespace Offload

variable {σ : Type}

/-! ### The parts -/

/-- What is asked of a card or of its action. -/
inductive CardCall where
  | openCard (device : String)
  | attach (attachment : Attachment)
  | assignInterrupt (source : UInt32)
  | execute (job : Job) (timeout : Nat)
  | detach
  | release
  deriving DecidableEq, Repr

/-- What is recorded of a machine: who holds which resource can be read off it. -/
inductive Event where
  /-- A call on a card: of which backend, what was asked, and whether it succeeded. -/
  | card (backend : String) (call : CardCall) (succeeded : Bool)
  /-- A buffer was taken. -/
  | allocated (buffer : HostBuffer)
  /-- A buffer was given back. -/
  | freed (buffer : HostBuffer)
  deriving DecidableEq, Repr

/-- What a machine is made of that never changes. -/
structure Platform (σ : Type) where
  allocator : Allocator
  /-- The registered backends; `none` if there never was a registry. -/
  backends : Option (List (Backend σ))
  /-- How long a job takes, in nanoseconds. -/
  jobTime : Nat

/-- Host memory, files, the state of the backends, the log, and what is recorded. -/
structure Machine (σ : Type) where
  memory : HostMemory
  files : FileTree
  devices : σ
  log : List Log.Record
  events : List Event

/-- An open card. -/
structure Card (σ : Type) where
  backend : Backend σ
  device : String
  number : Nat

/-- An attached action. -/
structure Action (σ : Type) where
  backend : Backend σ
  number : Nat

namespace Machine

/-- The machine with records added to the log. -/
def noteAll (records : List Log.Record) (m : Machine σ) : Machine σ :=
  { m with log := m.log ++ records }

/-- The machine with a record added to the log. -/
def note (level : Log.Level) (source : Log.Source) (text : String) (m : Machine σ) : Machine σ :=
  m.noteAll [⟨level, source, text⟩]

/-- The machine with an event recorded. -/
def recording (e : Event) (m : Machine σ) : Machine σ := { m with events := m.events ++ [e] }

/-- The machine with a call on a card recorded. -/
def noteCall (backend : Backend σ) (call : CardCall) (succeeded : Bool) (m : Machine σ) :
    Machine σ :=
  m.recording (.card backend.name call succeeded)

/-! ### Buffers -/

/-- An address as the log shows it. -/
def showAddress (addr : UInt64) : String := "0x" ++ Text.paddedHex 16 addr.toNat

/-- Takes a block of zeros. -/
def allocate (p : Platform σ) (size : Nat) (m : Machine σ) : Except Error HostBuffer × Machine σ :=
  match m.memory.allocate p.allocator size with
  | .error fault => (.error (.allocating size fault), m)
  | .ok (buffer, memory) =>
    (.ok buffer, ({ m with memory }.recording (.allocated buffer)).note .trace .memory
      ("allocated " ++ toString size ++ " bytes of host memory at " ++ showAddress buffer.addr))

/-- Gives a block back. -/
def free (buffer : HostBuffer) (m : Machine σ) : Machine σ :=
  ({ m with memory := m.memory.free buffer }.recording (.freed buffer)).note .trace .memory
    ("freeing " ++ toString buffer.size ++ " bytes of host memory at " ++ showAddress buffer.addr)

/-- Puts bytes at the start of a block. -/
def fill (buffer : HostBuffer) (d : Bytes) (m : Machine σ) : Machine σ :=
  { m with memory := m.memory.modify buffer.addr (·.overwrite 0 d) }

/-- What a block holds. -/
def contents (buffer : HostBuffer) (m : Machine σ) : Bytes :=
  (m.memory.contents? buffer).getD .empty

/-! ### Files -/

/-- The length of a file. -/
def fileSize (path : Path) (m : Machine σ) : Except Error Nat × Machine σ :=
  let m := m.note .trace .files ("Attempting to size " ++ path.quoted)
  match m.files.fileSize path with
  | .error cause => (.error (.sizing path cause), m)
  | .ok len =>
    (.ok len, m.note .trace .files (path.quoted ++ " is " ++ toString len ++ " bytes"))

/-- The first bytes of a file. -/
def readFile (path : Path) (len : Nat) (m : Machine σ) : Except Error Bytes × Machine σ :=
  let m := m.note .trace .files
    ("Attempting to read " ++ toString len ++ " bytes from " ++ path.quoted)
  match m.files.readExact path len with
  | .error cause => (.error (.reading path cause), m)
  | .ok d => (.ok d, m.note .trace .files "Reading done")

/-- Writes a file. -/
def writeFile (path : Path) (d : Bytes) (m : Machine σ) : Except Error Unit × Machine σ :=
  let m := m.note .trace .files
    ("Attempting to write " ++ toString d.size ++ " bytes to " ++ path.quoted)
  match m.files.write path d with
  | .error cause => (.error (.writing d.size path cause), m)
  | .ok files => (.ok (), { m with files }.note .trace .files "Write done.")

/-! ### Cards -/

/-- What is logged when a card could not be opened. -/
def openHints : List Log.Record :=
  [⟨.error, .platform, "Default mode is FPGA mode."⟩,
   ⟨.error, .platform,
    "Did you want to run CPU mode ? => add OCACCEL_CONFIG=CPU before your command."⟩,
   ⟨.error, .platform, "Otherwise make sure you ran ocaccel_find_card and ocaccel_maint " ++
    "for your selected card."⟩]

/-- Did a request succeed? -/
def succeeded {α : Type} : Except Error α → Bool
  | .ok _ => true
  | .error _ => false

/-- Opens a device with the backend of a name. -/
def openCard (p : Platform σ) (backend device : String) (m : Machine σ) :
    Except Error (Card σ) × Machine σ :=
  match p.backends with
  | none => (.error (.internal .noRegistry), m)
  | some backends =>
    let m := m.note .trace .platform
      ("opening " ++ Text.quoted device ++ " with backend " ++ Text.quoted backend)
    match backends.find? fun b => b.name == backend with
    | none =>
      (.error (.opening device ("no " ++ backend ++ " backend in this build")),
        m.noteAll openHints)
    | some b =>
      let r := b.openCard device m.devices
      let m := ({ m with devices := r.state }.noteAll r.log).noteCall b (.openCard device)
        (succeeded r.result)
      match r.result with
      | .error e => (.error e, m.noteAll openHints)
      | .ok number => (.ok ⟨b, device, number⟩, m)

/-- Attaches an action to a card. -/
def attach (card : Card σ) (attachment : Attachment) (m : Machine σ) :
    Except Error (Action σ) × Machine σ :=
  let r := card.backend.attach card.number card.device attachment m.devices
  let m := ({ m with devices := r.state }.noteAll r.log).noteCall card.backend
    (.attach attachment) (succeeded r.result)
  match r.result with
  | .error e => (.error e, m)
  | .ok number => (.ok ⟨card.backend, number⟩, m)

/-- Routes the completion interrupt of an action. -/
def assignInterrupt (action : Action σ) (source : UInt32) (m : Machine σ) :
    Except Error Unit × Machine σ :=
  let r := action.backend.assignInterrupt action.number source m.devices
  (r.result, ({ m with devices := r.state }.noteAll r.log).noteCall action.backend
    (.assignInterrupt source) (succeeded r.result))

/-- The host memory after the writes of an action. -/
def applyWrites (writes : List (UInt64 × Bytes)) (memory : HostMemory) : HostMemory :=
  writes.foldl (fun memory w => memory.writeIfStaged w.1 w.2) memory

/-- Runs a job on an action.  The job comes back with the return code of the action. -/
def execute (action : Action σ) (job : Job) (timeout : Nat) (m : Machine σ) :
    Except Error Unit × Job × Machine σ :=
  let e := action.backend.execute action.number job timeout m.memory m.devices
  (e.result, { job with retc := e.retc },
    ({ m with devices := e.state, memory := applyWrites e.writes m.memory }.noteAll
      e.log).noteCall action.backend (.execute job timeout) (succeeded e.result))

/-- Takes leave of an action. -/
def detach (action : Action σ) (m : Machine σ) : Machine σ :=
  let (devices, log) := action.backend.detach action.number m.devices
  ({ m with devices }.noteAll log).noteCall action.backend .detach true

/-- Takes leave of a card. -/
def release (card : Card σ) (m : Machine σ) : Machine σ :=
  let (devices, log) := card.backend.release card.number card.device m.devices
  ({ m with devices }.noteAll log).noteCall card.backend .release true

end Machine

end Offload
