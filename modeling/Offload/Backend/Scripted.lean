/-
**A backend that follows a script.**

A card for trying out clients: what it does is laid down beforehand, failures included.  When it
runs a job it copies the input as it is, and then puts given bytes at given offsets of the output,
also behind its end.

Main definitions:

* `Script` — what the card does;
* `Scripted.backend` — the backend; its state is the script.
-/

import Offload.Backend

set_option relaxedAutoImplicit false
set_option autoImplicit false

namespace Offload

/-- What a scripted card does.  An absent error means that the request succeeds. -/
structure Script where
  /-- Why the card cannot be opened. -/
  openError : Option String
  /-- Why the action cannot be attached. -/
  attachError : Option String
  /-- Why the interrupt cannot be assigned. -/
  interruptError : Option (Int × String)
  /-- Why a job fails to run. -/
  executeError : Option (Int × String)
  /-- The return code of a job. -/
  retc : UInt32
  /-- What is written at offsets of the output after the copy. -/
  pokes : List (UInt64 × Bytes)

/-- The script of a card that does everything right. -/
def Script.faultless : Script := ⟨none, none, none, none, Job.success, []⟩

namespace Scripted

/-- The answer to a request that may be scripted to fail. -/
def answer {α : Type} (error : Option Error) (value : α) (s : Script) : Reply Script α where
  result := match error with
    | some e => .error e
    | none => .ok value
  state := s
  log := []

/-- The writes of a job: the input as it is, if it can be read, then the pokes. -/
def writes (job : Job) (host : HostMemory) (s : Script) : List (UInt64 × Bytes) :=
  let len := min job.input.size.toNat job.output.size.toNat
  let copied :=
    if job.input.space = .hostDram then
      ((host.read? job.input.addr len).map (job.output.addr, ·)).toList
    else []
  if job.output.space = .hostDram then
    copied ++ s.pokes.map fun poke => (job.output.addr + poke.1, poke.2)
  else []

/-- The backend that follows a script. -/
def backend : Backend Script where
  name := "MOCK"
  openCard device s := answer (s.openError.map (.opening device)) 0 s
  attach _ device a s := answer (s.attachError.map (.attaching device a.type)) 0 s
  assignInterrupt _ _ s := answer (s.interruptError.map fun e => .executing e.1 e.2) () s
  execute _ job _ host s :=
    { result := match s.executeError with
        | some e => .error (.executing e.1 e.2)
        | none => .ok ()
      retc := s.retc
      writes := writes job host s
      state := s
      log := [] }
  detach _ s := (s, [])
  release _ _ s := (s, [])

end Scripted

end Offload
