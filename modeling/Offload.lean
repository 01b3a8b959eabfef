import Offload.AddressSpace
import Offload.Backend
import Offload.Backend.Scripted
import Offload.Backend.Software
import Offload.Bench
import Offload.Bytes
import Offload.Client
import Offload.Client.Call
import Offload.Client.Options
import Offload.Client.Stage
import Offload.CommandLine.Arguments
import Offload.CommandLine.Help
import Offload.CommandLine.Invocation
import Offload.CommandLine.Names
import Offload.Device
import Offload.Error
import Offload.Error.System
import Offload.Files.Access
import Offload.Files.Path
import Offload.Files.Tree
import Offload.Flags
import Offload.Hexdump
import Offload.Job
import Offload.Job.Request
import Offload.Log
import Offload.Log.Filter
import Offload.Log.Line
import Offload.Machine
import Offload.Main
import Offload.Memory.Card
import Offload.Memory.Host
import Offload.Numeral
import Offload.Pattern.Automaton
import Offload.Pattern.Basic
import Offload.Pattern.Bracket
import Offload.Pattern.ByteRange
import Offload.Pattern.CharSet
import Offload.Pattern.Compact
import Offload.Pattern.Escape
import Offload.Pattern.Fault
import Offload.Pattern.Group
import Offload.Pattern.Marks
import Offload.Pattern.Match
import Offload.Pattern.Meaning
import Offload.Pattern.Parse
import Offload.Pattern.Place
import Offload.Pattern.Reader
import Offload.Pattern.Repetition
import Offload.Pattern.Spot
import Offload.Pattern.Tree
import Offload.Program
import Offload.Session
import Offload.Text.Blank
import Offload.Text.Elapsed
import Offload.Text.Hex
import Offload.Text.Letters
import Offload.Text.Printable
import Offload.Text.Quoted
import Offload.Text.Unstyled
import Offload.Text.Utf8
import Offload.Verification
import Offload.Proofs.Machine.Frame
import Offload.Proofs.Client.Moves
import Offload.Proofs.Client.Staging
import Offload.Proofs.Client.Phases
import Offload.Proofs.Client.Release
import Offload.Proofs.Process
import Offload.Proofs.Memory.Flat
import Offload.Proofs.Memory.Same
import Offload.Proofs.Machine.Requests
import Offload.Proofs.Software.FlatCards
import Offload.Proofs.Memory.Contents
import Offload.Proofs.Client.Prepare
import Offload.Proofs.Verification
import Offload.Proofs.Software.Transfer
import Offload.Proofs.Software.Run
import Offload.Proofs.Client.Atomicity
import Offload.Proofs.Client.Invariant
import Offload.Proofs.Client.Relay
import Offload.Proofs.Client.Spares
import Offload.Proofs.Software.Account
import Offload.Proofs.Software.Following
import Offload.Proofs.Software.Pair
import Offload.Proofs.Memory.Cells
import Offload.Proofs.Software.Effect
import Offload.Proofs.Client.Watched
import Offload.Proofs.Client.Submission
import Offload.Proofs.Program.Calls
import Offload.Proofs.Program.Reported
import Offload.Proofs.Program.Staged
import Offload.Proofs.Program.Frame
import Offload.Proofs.Program.Status
import Offload.Proofs.Numeral.Literal
import Offload.Proofs.Numeral.Conversion
import Offload.Proofs.Numeral.Size
import Offload.Proofs.Verification.Decision
import Offload.Proofs.Hexdump
import Offload.Proofs.Verification.Report
import Offload.Proofs.Numeral.Hexadecimal
import Offload.Proofs.Hexdump.Recovery
import Offload.Proofs.Software.Immaterial
import Offload.Proofs.Client.Table
import Offload.Proofs.CommandLine.Written
import Offload.Proofs.CommandLine.Configurations
import Offload.Proofs.Job.Image
import Offload.Proofs.Files.Coherence
import Offload.Proofs.Program.Misnamed
import Offload.Proofs.Client.Guarded
import Offload.Proofs.Client.Listing
