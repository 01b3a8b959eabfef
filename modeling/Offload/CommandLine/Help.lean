/-
**What the program says about itself.**

Main definitions:

* `CommandLine.help` — the text of the help;
* `CommandLine.version` — name and version.
-/

set_option relaxedAutoImplicit false
set_option autoImplicit false

namespace Offload.CommandLine

/-- The lines of the help. -/
def helpLines : List String :=
  ["Run the changecase action on an OpenCAPI accelerator card",
   "",
   "Usage: helloaccel [OPTIONS]",
   "",
   "Options:",
   "  -C, --card <CARD>          card to be used for the operation, can be (0...3) [default: 0]",
   "  -i, --input <INPUT>        input file",
   "  -o, --output <OUTPUT>      output file",
   "  -A, --src-type <SRC_TYPE>  source address space: HOST_DRAM, CARD_DRAM or TYPE_NVME",
   "  -a, --src-addr <SRC_ADDR>  source address, e.g. in CARD_DRAM",
   "  -D, --dst-type <DST_TYPE>  destination address space: HOST_DRAM, CARD_DRAM or TYPE_NVME",
   "  -d, --dst-addr <DST_ADDR>  destination address, e.g. in CARD_DRAM",
   "  -s, --size <SIZE>          size of data when there is no input file (suffixes K, M, G)",
   "  -t, --timeout <TIMEOUT>    timeout in sec to wait for done [default: 600]",
   "  -X, --verify               verify result if possible",
   "  -N, --no-irq               disable interrupts, poll for completion",
   "  -v, --verbose              log debug output",
   "  -h, --help                 Print help",
   "  -V, --version              Print version",
   "",
   "Useful environment variables (to be placed before the command):",
   "  OCACCEL_CONFIG=CPU   run the action in software instead of on the FPGA",
   "  OCACCEL_TRACE=0x0    no debug trace (default mode)",
   "  OCACCEL_TRACE=0xF    full debug trace",
   "  RUST_LOG=debug       verbose host-side logging",
   "",
   "Example:",
   "  echo \"Hello world. This is my first OpenCAPI experience. It's real fun.\" > /tmp/t1",
   "  helloaccel -i /tmp/t1 -o /tmp/t2",
   "  cat /tmp/t2    # UPPER CASE expected"]

/-- The text of the help. -/
def help : String := String.join (helpLines.map (· ++ "\n"))

/-- Name and version of the program. -/
def version : String := "helloaccel 0.1.0\n"

end Offload.CommandLine
