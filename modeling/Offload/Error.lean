/-
**What can go wrong.**

Each error says what was attempted and why it failed.  Every one of them ends a run with the same
exit status; that the output differs from the input is not an error but an outcome.

Main definitions:

* `Error` — the errors, by what was attempted;
* `UsageFault`, `ArgumentFault`, `InternalFault` — causes that the program itself finds;
* `Error.message` — an error in words.
-/

import Offload.AddressSpace
import Offload.Client.Stage
import Offload.Error.System
import Offload.Files.Path
import Offload.Log
import Offload.Memory.Host

set_option relaxedAutoImplicit false
set_option autoImplicit false

namespace Offload

/-- What is wrong with the way the program is used. -/
inductive UsageFault where
  /-- There is no address space of that name. -/
  | unknownSpace (name : String)
  | other (text : String)
  deriving DecidableEq, Repr

/-- What is wrong with an argument. -/
inductive ArgumentFault where
  /-- The size does not fit the length field of a descriptor. -/
  | oversized (size : Nat)
  /-- The size leaves no room for the guard behind the data. -/
  | noRoomForGuard (size : Nat)
  | other (text : String)
  deriving DecidableEq, Repr

/-- What is wrong inside the program. -/
inductive InternalFault where
  /-- No backend was ever registered. -/
  | noRegistry
  /-- A step was asked for in a stage that does not allow it. -/
  | outOfOrder (step : Step) (found : Stage)
  /-- The session has no action. -/
  | noAction
  /-- There is no session. -/
  | noSession
  | other (text : String)
  deriving DecidableEq, Repr

/-- An error, by what was attempted. -/
inductive Error where
  | usage (fault : UsageFault)
  | argument (fault : ArgumentFault)
  | sizing (file : Path) (cause : IoError)
  | reading (file : Path) (cause : IoError)
  | writing (len : Nat) (file : Path) (cause : IoError)
  | allocating (size : Nat) (fault : AllocFault)
  | opening (device reason : String)
  | attaching (device : String) (type : UInt32) (reason : String)
  | executing (rc : Int) (reason : String)
  | returnCode (retc : UInt32)
  | internal (fault : InternalFault)
  deriving DecidableEq, Repr

/-- The fault in words. -/
def UsageFault.message : UsageFault → String
  | unknownSpace name =>
    Text.quoted name ++ " is not an address space, expected HOST_DRAM, CARD_DRAM or TYPE_NVME"
  | other text => text

/-- The fault in words. -/
def ArgumentFault.message : ArgumentFault → String
  | oversized size => toString size ++ " bytes does not fit a job descriptor"
  | noRoomForGuard size => toString size ++ " bytes plus the verify guard overflows"
  | other text => text

/-- The fault in words. -/
def InternalFault.message : InternalFault → String
  | noRegistry => "couldn't get BACKEND_REGISTRY"
  | outOfOrder step found =>
    "cannot " ++ step.phrase ++ " in state " ++ found.name ++ ", expected " ++ step.requires.name
  | noAction => "session has no attached action"
  | noSession => "no session to execute on"
  | other text => text

namespace Error

/-- An error in words. -/
def message : Error → String
  | usage fault => "HelloAccelError::Usage: " ++ fault.message
  | argument fault => "HelloAccelError::Argument: " ++ fault.message
  | sizing file cause =>
    "HelloAccelError::IOSize: An IO error occurred when sizing " ++ file.quoted ++ ": " ++
      cause.message
  | reading file cause =>
    "HelloAccelError::IORead: An IO error occurred when reading from " ++ file.quoted ++ ": " ++
      cause.message
  | writing len file cause =>
    "HelloAccelError::IOWrite: An IO error occurred when writing " ++ toString len ++
      " bytes to " ++ file.quoted ++ ": " ++ cause.message
  | allocating size fault =>
    "HelloAccelError::Alloc: Failed to allocate " ++ toString size ++
      " bytes of host memory: " ++ fault.message
  | opening device reason =>
    "HelloAccelError::CardOpen: Failed to open card " ++ Text.quoted device ++ ": " ++ reason
  | attaching device type reason =>
    "HelloAccelError::ActionAttach: Failed to attach action 0x" ++
      Text.paddedHex 8 type.toNat ++ " on " ++ Text.quoted device ++ ": " ++ reason
  | executing rc reason =>
    "HelloAccelError::Execute: Job execution failed with rc " ++ toString rc ++ ": " ++ reason
  | returnCode retc =>
    "HelloAccelError::Retc: Unexpected RETC=0x" ++ Text.hex retc.toNat
  | internal fault => "HelloAccelError::Internal: An Internal error occurred: " ++ fault.message

/-- The exit status of a run that ended with an error. -/
def exitStatus : UInt8 := 1

/-- The record of the error that ends a run. -/
def record (e : Error) : Log.Record := ⟨.error, .errors, e.message⟩

end Error

/-- Reads the name of an address space. -/
def AddressSpace.parse (s : String) : Except Error AddressSpace :=
  match AddressSpace.ofName? s with
  | some space => .ok space
  | none => .error (.usage (.unknownSpace s))

end Offload
