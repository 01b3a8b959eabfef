/-
**Reading the arguments of a command line.**

Arguments are read from left to right.  A long name may carry its value after an equals sign; a
letter may carry it directly behind, with or without an equals sign, and letters of flags may stand
together.  Otherwise the value is the next argument, unless that starts with a minus sign (a lone
minus sign is a value).  A value that stands by itself is looked at when the next option comes or
the arguments end; one that is attached is looked at right away.  No option may be given twice, and
nothing but options is allowed.

Main definitions:

* `UsageError` — what can be wrong with a command line;
* `Ending` — why no run follows;
* `CommandLine.parse` — reading the arguments.
-/

import Offload.CommandLine.Invocation

set_option relaxedAutoImplicit false
set_option autoImplicit false

namespace Offload

/-- An argument, as bytes. -/
abbrev Argument := List UInt8

/-- What is wrong with a command line. -/
inductive UsageError where
  /-- A value is not what its option takes. -/
  | invalidValue (o : ValueOption) (text : String) (fault : ValueFault)
  /-- An option lacks its value, or has an empty path. -/
  | missingValue (o : ValueOption)
  /-- There is no such option; or it is no option at all. -/
  | unknown (text : String)
  /-- An option is given twice. -/
  | repeated (n : OptionName)
  /-- A flag has a value. -/
  | unneededValue (n : OptionName) (text : String)
  /-- A value that has to be text is not. -/
  | notText
  deriving DecidableEq, Repr

namespace UsageError

/-- What is wrong, in words. -/
def message : UsageError → String
  | invalidValue o text fault =>
    "invalid value '" ++ text ++ "' for '" ++ (OptionName.value o).usage ++ "': " ++
      fault.message
  | missingValue o =>
    "a value is required for '" ++ (OptionName.value o).usage ++ "' but none was supplied"
  | unknown text => "unexpected argument '" ++ text ++ "' found"
  | repeated n => "the argument '" ++ n.usage ++ "' cannot be used multiple times"
  | unneededValue n text =>
    "unexpected value '" ++ text ++ "' for '" ++ n.usage ++ "' found; no more were expected"
  | notText => "invalid UTF-8 was detected in one or more arguments"

/-- What is printed about it. -/
def text (e : UsageError) : String :=
  "error: " ++ e.message ++ "\n\nFor more information, try '--help'.\n"

end UsageError

/-- Why no run follows: a question was asked, or something is wrong. -/
inductive Ending where
  | inquiry (i : Inquiry)
  | error (e : UsageError)
  deriving DecidableEq, Repr

namespace CommandLine

/-- An option that takes a value and stands by itself, and its value once that has come. -/
structure Pending where
  option : ValueOption
  value : Option Argument
  deriving DecidableEq, Repr

/-- How far the reading has come: what is given, and the option that was not looked at yet. -/
structure Progress where
  given : Invocation
  pending : Option Pending
  deriving DecidableEq, Repr

/-- The minus sign. -/
def minus : UInt8 := 45

/-- The equals sign. -/
def equals : UInt8 := 61

/-! ### Looking at one option -/

/-- Takes in an option and its value. -/
def takeValue (inv : Invocation) (o : ValueOption) (value : Argument) :
    Except Ending Invocation :=
  -- A repetition is an error whatever the second value is.
  if inv.gives (.value o) then .error (.error (.repeated (.value o)))
  else if Invocation.isPath o then
    if value.isEmpty then .error (.error (.missingValue o)) else .ok (inv.setPath o ⟨value⟩)
  else
    match Text.decodeUtf8? value with
    | none => .error (.error .notText)
    | some s =>
      match inv.read o s with
      | .ok inv => .ok inv
      | .error fault => .error (.error (.invalidValue o s fault))

/-- Looks at the pending option. -/
def settle (p : Progress) : Except Ending Invocation :=
  match p.pending with
  | none => .ok p.given
  | some ⟨o, none⟩ => .error (.error (.missingValue o))
  | some ⟨o, some value⟩ => takeValue p.given o value

/-- Takes in an option whose value is attached to it. -/
def takeAttached (p : Progress) (o : ValueOption) (value : Argument) : Except Ending Progress :=
  match settle p with
  | .error e => .error e
  | .ok inv =>
    match takeValue inv o value with
    | .error e => .error e
    | .ok inv => .ok ⟨inv, none⟩

/-- Takes in an option whose value is to come. -/
def takeOpen (p : Progress) (o : ValueOption) : Except Ending Progress :=
  match settle p with
  | .error e => .error e
  | .ok inv => .ok ⟨inv, some ⟨o, none⟩⟩

/-- Takes in a flag, or answers a question. -/
def takeFlag (p : Progress) (f : Flag) : Except Ending Progress :=
  match settle p with
  | .error e => .error e
  | .ok inv =>
    if inv.gives (.flag f) then .error (.error (.repeated (.flag f)))
    else .ok ⟨inv.setFlag f, none⟩

/-- Comes to a question. -/
def takeInquiry (p : Progress) (i : Inquiry) : Except Ending Progress :=
  match settle p with
  | .error e => .error e
  | .ok _ => .error (.inquiry i)

/-! ### Looking at one argument -/

/-- An argument is unknown. -/
def unknown (text : String) : Except Ending Progress := .error (.error (.unknown text))

/-- The name before the first equals sign, and the value after it. -/
def splitEquals (bytes : Argument) : Argument × Option Argument :=
  match bytes.dropWhile (· != equals) with
  | [] => (bytes, none)
  | _ :: value => (bytes.takeWhile (· != equals), some value)

/-- Takes in an argument that starts with two minus signs, given without them. -/
def takeLong (p : Progress) (bytes : Argument) : Except Ending Progress :=
  let parts := splitEquals bytes
  match (Text.decodeUtf8? parts.1).bind OptionName.ofLong? with
  | none => unknown ("--" ++ Text.lossy parts.1)
  | some (.value o) =>
    match parts.2 with
    | some value => takeAttached p o value
    | none => takeOpen p o
  | some name =>
    match parts.2 with
    | some value => .error (.error (.unneededValue name (Text.lossy value)))
    | none =>
      match name with
      | .flag f => takeFlag p f
      | .inquiry i => takeInquiry p i
      | .value o => takeOpen p o

/-- The characters at the start of a byte string, each with the bytes that follow it, and the bytes
from the first one on that is no part of a character. -/
def letters : Argument → List (Char × Argument) × Argument
  | [] => ([], [])
  | lead :: rest =>
    match Text.firstPiece lead rest with
    | (.broken _, _) => ([], lead :: rest)
    | (.char c, n) =>
      let more := letters (rest.drop n)
      ((c, rest.drop n) :: more.1, more.2)
termination_by bytes => bytes.length
decreasing_by
  rw [List.length_drop, List.length_cons]
  omega

/-- The value attached to a letter: what follows it, without one equals sign at the start. -/
def attachedValue : Argument → Option Argument
  | [] => none
  | b :: rest => if b = equals then some rest else some (b :: rest)

/-- Takes in letters, and then the bytes that are no character. -/
def takeLetters (p : Progress) : List (Char × Argument) → Argument → Except Ending Progress
  | [], [] => .ok p
  | [], rest => unknown ("-" ++ Text.lossy rest)
  | (c, following) :: more, rest =>
    match OptionName.ofLetter? c with
    | none => unknown (String.ofList ['-', c])
    | some (.value o) =>
      match attachedValue following with
      | some value => takeAttached p o value
      | none => takeOpen p o
    | some (.flag f) =>
      match takeFlag p f with
      | .error e => .error e
      | .ok p => takeLetters p more rest
    | some (.inquiry i) => takeInquiry p i

/-- Takes in an argument that no option before it waits for, or that cannot be a value. -/
def takeArgument (p : Progress) (arg : Argument) : Except Ending Progress :=
  match arg with
  | a :: b :: rest =>
    if a = minus then
      if b = minus then takeLong p rest
      else takeLetters p (letters (b :: rest)).1 (letters (b :: rest)).2
    else unknown (Text.lossy arg)
  | _ => unknown (Text.lossy arg)

/-- Can the argument be the value of the option before it? -/
def isValue (arg : Argument) : Bool :=
  match arg with
  | a :: _ :: _ => a != minus
  | _ => true

/-! ### All arguments -/

/-- Reads arguments from left to right.  After two minus signs by themselves come no more options,
and anything that follows is unknown. -/
def takeAll (p : Progress) : List Argument → Except Ending Invocation
  | [] => settle p
  | arg :: rest =>
    if arg = [minus, minus] then
      match rest with
      | [] => settle p
      | next :: _ => .error (.error (.unknown (Text.lossy next)))
    else
      -- An option that still waits for its value takes the argument, unless that looks like one.
      match p.pending, isValue arg with
      | some ⟨o, none⟩, true => takeAll ⟨p.given, some ⟨o, some arg⟩⟩ rest
      | _, _ =>
        match takeArgument p arg with
        | .error e => .error e
        | .ok p => takeAll p rest

/-- Reads the arguments of a command line. -/
def parse (args : List Argument) : Except Ending Invocation := takeAll ⟨.none, none⟩ args

end CommandLine

end Offload
