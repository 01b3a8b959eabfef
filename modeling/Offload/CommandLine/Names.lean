/-
**The names on the command line.**

Every option has a letter and a long name.  Some take a value, the others are flags; two flags ask
for information instead of a run.

Main definitions:

* `ValueOption`, `Flag`, `Inquiry` — the options with a value, the flags, the questions;
* `OptionName` — any of them; `OptionName.ofLetter?`, `OptionName.ofLong?` find one by its name;
* `OptionName.usage` — an option as messages name it.

Main results:

* `OptionName.ofLetter?_letter`, `OptionName.ofLong?_long` — **no two options share a name**.
-/

set_option relaxedAutoImplicit false
set_option autoImplicit false

namespace Offload

/-- An option that takes a value. -/
inductive ValueOption where
  | card
  | input
  | output
  | sourceSpace
  | sourceAddr
  | targetSpace
  | targetAddr
  | size
  | timeout
  deriving DecidableEq, Repr

/-- A flag. -/
inductive Flag where
  | verify
  | noIrq
  | verbose
  deriving DecidableEq, Repr

/-- A question that is answered instead of running. -/
inductive Inquiry where
  | help
  | version
  deriving DecidableEq, Repr

/-- Whatever has a name on the command line. -/
inductive OptionName where
  | value (o : ValueOption)
  | flag (f : Flag)
  | inquiry (i : Inquiry)
  deriving DecidableEq, Repr

namespace OptionName

/-- All names. -/
def all : List OptionName :=
  [.value .card, .value .input, .value .output, .value .sourceSpace, .value .sourceAddr,
   .value .targetSpace, .value .targetAddr, .value .size, .value .timeout,
   .flag .verify, .flag .noIrq, .flag .verbose, .inquiry .help, .inquiry .version]

/-- The letter of an option. -/
def letter : OptionName → Char
  | value .card => 'C'
  | value .input => 'i'
  | value .output => 'o'
  | value .sourceSpace => 'A'
  | value .sourceAddr => 'a'
  | value .targetSpace => 'D'
  | value .targetAddr => 'd'
  | value .size => 's'
  | value .timeout => 't'
  | flag .verify => 'X'
  | flag .noIrq => 'N'
  | flag .verbose => 'v'
  | inquiry .help => 'h'
  | inquiry .version => 'V'

/-- The long name of an option. -/
def long : OptionName → String
  | value .card => "card"
  | value .input => "input"
  | value .output => "output"
  | value .sourceSpace => "src-type"
  | value .sourceAddr => "src-addr"
  | value .targetSpace => "dst-type"
  | value .targetAddr => "dst-addr"
  | value .size => "size"
  | value .timeout => "timeout"
  | flag .verify => "verify"
  | flag .noIrq => "no-irq"
  | flag .verbose => "verbose"
  | inquiry .help => "help"
  | inquiry .version => "version"

/-- The word that stands for the value of an option. -/
def placeholder : ValueOption → String
  | .card => "CARD"
  | .input => "INPUT"
  | .output => "OUTPUT"
  | .sourceSpace => "SRC_TYPE"
  | .sourceAddr => "SRC_ADDR"
  | .targetSpace => "DST_TYPE"
  | .targetAddr => "DST_ADDR"
  | .size => "SIZE"
  | .timeout => "TIMEOUT"

/-- An option as messages name it. -/
def usage : OptionName → String
  | value o => "--" ++ (value o).long ++ " <" ++ placeholder o ++ ">"
  | name => "--" ++ name.long

/-- The option of a letter. -/
def ofLetter? (c : Char) : Option OptionName := all.find? fun n => n.letter == c

/-- The option of a long name. -/
def ofLong? (s : String) : Option OptionName := all.find? fun n => n.long == s

theorem mem_all (n : OptionName) : n ∈ all := by
  rcases n with o | f | i
  · cases o <;> decide
  · cases f <;> decide
  · cases i <;> decide

/-- What holds of all names is decided by trying them one after another. -/
instance {P : OptionName → Prop} [DecidablePred P] : Decidable (∀ n, P n) :=
  decidable_of_iff (all.all (P ·) = true)
    ⟨fun h n => of_decide_eq_true (List.all_eq_true.1 h n (mem_all n)),
      fun h => List.all_eq_true.2 fun n _ => decide_eq_true (h n)⟩

@[simp] theorem ofLetter?_letter (n : OptionName) : ofLetter? n.letter = some n := by
  revert n
  decide

@[simp] theorem ofLong?_long (n : OptionName) : ofLong? n.long = some n := by
  revert n
  decide

end OptionName

end Offload
