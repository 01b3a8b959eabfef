/-
**What a run is configured with.**

Main definitions:

* `Options` — everything that can be configured;
* `Options.standard` — what holds where nothing is said;
* `Parameters` — the addresses and sizes that a job is submitted with;
* `Parameters.ofOptions` — the parameters before anything is staged;
* `Parameters.lines` — the parameters as they are listed;
* `Parameters.request` — the job that they ask for.
-/

import Offload.Job.Request

set_option relaxedAutoImplicit false
set_option autoImplicit false

namespace Offload

/-- What a run is configured with. -/
structure Options where
  /-- The number of the card. -/
  card : UInt32
  /-- The file that the data is read from, which makes host memory the source. -/
  input : Option Path
  /-- The file that the result is written to, which makes host memory the destination. -/
  output : Option Path
  sourceSpace : AddressSpace
  sourceAddr : Option UInt64
  targetSpace : AddressSpace
  targetAddr : Option UInt64
  /-- The size of the data when there is no input file. -/
  size : Option Nat
  /-- The seconds that the job may take. -/
  timeout : Nat
  /-- Compare the output with the input. -/
  verify : Bool
  /-- Wait for completion by interrupt instead of polling. -/
  irq : Bool
  /-- The name of the backend. -/
  backend : String
  deriving DecidableEq, Repr

namespace Options

/-- The seconds that a job may take unless something else is said. -/
def standardTimeout : Nat := 600

/-- The size of the data when there is no input file and nothing is said: 1 MiB. -/
def standardSize : Nat := 1024 * 1024

/-- The options where nothing is said but the backend. -/
def standard (backend : String) : Options where
  card := 0
  input := none
  output := none
  sourceSpace := .hostDram
  sourceAddr := none
  targetSpace := .hostDram
  targetAddr := none
  size := none
  timeout := standardTimeout
  verify := false
  irq := true
  backend := backend

/-- Is the output staged in host memory?  It is when there is an output file, and when the
destination is host memory and no address is given for it. -/
def stagesOutput (o : Options) : Bool :=
  o.output.isSome || (o.targetSpace = .hostDram && o.targetAddr.isNone)

/-- The length of the guard behind the output. -/
def guardLength (o : Options) : Nat := if o.verify then 1024 else 0

end Options

/-- The files, addresses and sizes of a job. -/
structure Parameters where
  input : Option Path
  output : Option Path
  spaceIn : AddressSpace
  addrIn : UInt64
  spaceOut : AddressSpace
  addrOut : UInt64
  size : Nat
  deriving DecidableEq, Repr

namespace Parameters

/-- The parameters that the options alone give. -/
def ofOptions (o : Options) : Parameters where
  input := o.input
  output := o.output
  spaceIn := o.sourceSpace
  addrIn := o.sourceAddr.getD 0
  spaceOut := o.targetSpace
  addrOut := o.targetAddr.getD 0
  size := o.size.getD Options.standardSize

/-- The name of a file, if there is one. -/
def fileName : Option Path → String
  | some path => path.shown
  | none => "unknown"

/-- The list of the parameters. -/
def lines (p : Parameters) : List String :=
  ["PARAMETERS:",
   "  input:       " ++ fileName p.input,
   "  output:      " ++ fileName p.output,
   "  type_in:     " ++ p.spaceIn.label,
   "  addr_in:     " ++ Text.paddedHex 16 p.addrIn.toNat,
   "  type_out:    " ++ p.spaceOut.label,
   "  addr_out:    " ++ Text.paddedHex 16 p.addrOut.toNat,
   "  size_in/out: " ++ Text.paddedHex 8 p.size]

/-- The list of the parameters, as one text. -/
def text (p : Parameters) : String := "\n".intercalate p.lines

/-- The job that the parameters ask for: it reads and writes as many bytes as they say. -/
def request (p : Parameters) : JobRequest where
  addrIn := p.addrIn
  sizeIn := p.size
  spaceIn := p.spaceIn
  addrOut := p.addrOut
  sizeOut := p.size
  spaceOut := p.spaceOut

end Parameters

end Offload
