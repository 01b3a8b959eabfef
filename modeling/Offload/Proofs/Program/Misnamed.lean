/-
**A name that no address space has stops the program.**

Wherever in the command line an address space gets a name that none has, the program says that its
arguments are wrong, fails, and does nothing else: no parameters are printed, no card is opened, and
the files are as they were.  Neither a question behind the wrong name nor a right name makes up for
it.

Main definitions:

* `Program.after` — the machine that the program leaves.

Main results:

* `Program.files_after` — its files are those that the program leaves;
* `Program.stops_at_misnamed_space` — **a wrong name stops the program before it does anything**.
-/

import Offload.Proofs.CommandLine.Refusal
import Offload.Proofs.Program.Calls

set_option relaxedAutoImplicit false
set_option autoImplicit false

namespace Offload

namespace Program

open Client (fresh)
open CommandLine (Clause Misnames)
open Software (Cards)
open Text (ascii)

variable {args : List Argument}

/-- The machine that the program leaves.  Nothing happens on it unless the arguments ask for a
run. -/
def after (A : Allocator) (jobTime : Nat) (args : List Argument) (env : Environment)
    (files : FileTree) : Machine Cards :=
  if args.isEmpty then start files
  else
    match CommandLine.parse args with
    | .error _ => start files
    | .ok inv =>
      (runClient (platform A jobTime) (fresh (optionsOf inv env)) (begin inv env files)).2.2

/-- The files that the program leaves are those of its machine. -/
theorem files_after (A : Allocator) (jobTime : Nat) (args : List Argument) (env : Environment)
    (files : FileTree) :
    (after A jobTime args env files).files = (run A jobTime args env files).files := by
  rw [after, run]
  split
  · rfl
  · rcases CommandLine.parse args with ((_ | _) | _) | inv <;> rfl

/-- Nothing happens on the machine of a program whose arguments are refused. -/
theorem after_of_error (A : Allocator) (jobTime : Nat) {e : UsageError}
    (h : CommandLine.parse args = .error (.error e)) (env : Environment) (files : FileTree) :
    after A jobTime args env files = start files := by
  rw [after, h]
  exact ite_self _

/-- **A name that no address space has stops the program before it does anything.**  Whatever
complete options stand before it, and whatever stands behind it, the program reports what is wrong
with its arguments and fails; it prints nothing, nothing is asked of any card, and the files are as
they were. -/
theorem stops_at_misnamed_space (A : Allocator) (jobTime : Nat) (env : Environment)
    (files : FileTree) {before : List Clause} (hbefore : ∀ c ∈ before, c.Complete) {c : Clause}
    (hc : c.Complete) {o : ValueOption} {value : Argument} (hvalue : c.value? = some (o, value))
    (ho : o = .sourceSpace ∨ o = .targetSpace) (hmisnames : Misnames value)
    (rest : List Argument) :
    let args := before.flatMap Clause.arguments ++ c.arguments ++ rest
    let effect := run A jobTime args env files
    (∃ e, effect.usageError = some e ∧ effect.stderr = e.text) ∧ effect.status = 1 ∧
      effect.stdout = "" ∧ effect.files = files ∧ (after A jobTime args env files).events = [] := by
  intro args effect
  obtain ⟨e, he⟩ : CommandLine.Refused (CommandLine.parse args) :=
    CommandLine.refused_of_misnamed hbefore hc hvalue ho hmisnames rest
  -- Without arguments nothing would be refused.
  have hargs : args ≠ [] := by
    intro hnil
    rw [hnil] at he
    exact nomatch he
  have heffect : effect = refusing e files := run_of_error A jobTime hargs he env files
  rw [heffect, after_of_error A jobTime he]
  exact ⟨⟨e, rfl, rfl⟩, rfl, rfl, rfl, rfl⟩

/-- The wrong name stands between options that nothing is wrong with, and is followed by a right one
and by a request for help: `-X -vNi - --dst-type=CARD_RAM --dst-type CARD_DRAM -h`. -/
theorem stops_at_misnamed_space_card :
    let name := ascii "CARD_RAM".toList
    let before : List Clause := [.flags .verify [], .short [.verbose, .noIrq] .input (ascii ['-'])]
    let c : Clause := .joined .targetSpace name
    let rest := ["--dst-type", "CARD_DRAM", "-h"].map fun s => ascii s.toList
    let args := ["-X", "-vNi", "-", "--dst-type=CARD_RAM", "--dst-type", "CARD_DRAM", "-h"].map
      fun s => ascii s.toList
    let files : FileTree := { entries := [], workDir := [] }
    let effect := run .slots 0 args ⟨none, none, none⟩ files
    (∀ c ∈ before, c.Complete) ∧ c.Complete ∧ c.value? = some (.targetSpace, name) ∧
      Misnames name ∧ args = before.flatMap Clause.arguments ++ c.arguments ++ rest ∧
      (∃ e, effect.usageError = some e ∧ effect.stderr = e.text) ∧ effect.status = 1 ∧
      effect.stdout = "" ∧ effect.files = files ∧
      (after .slots 0 args ⟨none, none, none⟩ files).events = [] := by
  intro name before c rest args files effect
  have hbefore : ∀ c ∈ before, c.Complete := by
    intro c hc
    rcases List.mem_cons.1 hc with rfl | hc
    · trivial
    obtain rfl := List.mem_singleton.1 hc
    show CommandLine.isValue _ = true
    decide
  have hmisnames : Misnames name := by decide
  have hargs : args = before.flatMap Clause.arguments ++ c.arguments ++ rest := by decide
  refine ⟨hbefore, trivial, rfl, hmisnames, hargs, ?_⟩
  have h := stops_at_misnamed_space .slots 0 ⟨none, none, none⟩ files hbefore (c := c) trivial
    rfl (Or.inr rfl) hmisnames rest
  rw [← hargs] at h
  exact h

end Program

end Offload
