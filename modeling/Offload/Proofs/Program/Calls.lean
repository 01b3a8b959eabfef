/-
**The program as calls on its client.**

A run of the program asks three things of one client: to stage its input, to stage its output, and
to complete.  If staging fails, nothing is printed; and if it does not, the parameters are printed
before the client completes, and the verdict after that.

Main definitions:

* `Program.staging`, `Program.calls` — what the program asks of its client;
* `Program.prepared` — client and machine after staging;
* `Program.Asks` — arguments that ask for a run.

Main results:

* `Program.runClient_cases` — **a run ends with staging, or prints the parameters of the staged
  client and the verdict of completing it**;
* `Program.machine_runClient` — a run leaves the machine as the three calls do;
* `Program.run_of_asks`, `Program.run_of_error` — the program is such a run if its arguments ask
  for one, and refuses them if something is wrong with them.
-/

import Offload.Program
import Offload.Proofs.Client.Atomicity

set_option relaxedAutoImplicit false
set_option autoImplicit false

namespace Offload

namespace Program

open Client (afterCalls fresh)
open Software (Cards)

/-- What the program asks of its client before it prints the parameters. -/
def staging : List Client.Call := [.step .stageInput, .step .stageOutput]

/-- All that the program asks of its client. -/
def calls : List Client.Call := staging ++ [.complete]

/-- Client and machine after staging. -/
def prepared (p : Platform Cards) (o : Options) (m : Machine Cards) :
    Client Cards × Machine Cards :=
  afterCalls p staging (fresh o) m

variable {p : Platform Cards} {o : Options} {m : Machine Cards}

/-- The client that stages its input is half staged, or has failed. -/
theorem ends_stageInput (p : Platform Cards) (o : Options) (m : Machine Cards) :
    ((fresh o).stageInput p m).Ends (· = .inputStaged) :=
  Turn.ends_map.1 (Client.ends_answerStep .stageInput rfl fun _ => rfl)

theorem ends_stageOutput {c : Client Cards} (h : c.stage = .inputStaged) (m : Machine Cards) :
    (c.stageOutput p m).Ends (· = .staged) :=
  Turn.ends_map.1 (Client.ends_answerStep .stageOutput h fun _ => rfl)

/-- Staging changes no file. -/
theorem files_prepared (p : Platform Cards) (o : Options) (m : Machine Cards) :
    (prepared p o m).2.files = m.files :=
  (Client.files_staging (Or.inr rfl) _ _).trans (Client.files_staging (Or.inl rfl) (fresh o) m)

/-- **A run ends with staging, or prints the parameters of the staged client and the verdict of
completing it.** -/
theorem runClient_cases (p : Platform Cards) (o : Options) (m : Machine Cards) :
    let s := prepared p o m
    (s.1.stage = .failed ∧ ∃ e, runClient p (fresh o) m = (.error e, "", s.1.drop s.2)) ∨
      s.1.stage = .staged ∧ runClient p (fresh o) m =
        ((s.1.complete p s.2).1,
          s.1.params.text ++ "\n" ++ verdict p.jobTime (s.1.complete p s.2).1,
          (s.1.complete p s.2).2.1.drop (s.1.complete p s.2).2.2) := by
  have hinput := ends_stageInput p o m
  simp only [prepared, staging, Client.afterCalls_cons, Client.afterCalls_nil, Client.answer,
    Client.answerStep, Turn.map, runClient]
  generalize (fresh o).stageInput p m = t at hinput ⊢
  obtain ⟨e | _, c, m₁⟩ := t
  · -- A client that has failed refuses to stage its output.
    have hfailed : c.stage = .failed := hinput
    have hrefused : c.stageOutput p m₁ =
        (.error (.internal (.outOfOrder .stageOutput c.stage)), c, m₁) := by
      rw [Client.stageOutput, Client.inStage, if_neg (by rw [hfailed]; decide)]
    simp only [hrefused]
    exact Or.inl ⟨hfailed, e, rfl⟩
  · have houtput := ends_stageOutput (p := p) (c := c) hinput m₁
    simp only
    generalize c.stageOutput p m₁ = t at houtput ⊢
    obtain ⟨e | _, c', m₂⟩ := t
    · exact Or.inl ⟨houtput, e, rfl⟩
    · exact Or.inr ⟨houtput, rfl⟩

/-- **A run leaves the machine as the three calls do**, and a client that is dropped. -/
theorem machine_runClient (p : Platform Cards) (o : Options) (m : Machine Cards) :
    (runClient p (fresh o) m).2.2 =
      (afterCalls p calls (fresh o) m).1.drop (afterCalls p calls (fresh o) m).2 := by
  have hcalls : afterCalls p calls (fresh o) m =
      ((prepared p o m).1.complete p (prepared p o m).2).2 := by
    rw [calls, Client.afterCalls_append]
    rfl
  rw [hcalls]
  rcases runClient_cases p o m with ⟨hfailed, e, hrun⟩ | ⟨hstaged, hrun⟩
  · have hne : (prepared p o m).1.stage ≠ .staged := by
      rw [hfailed]
      decide
    rw [hrun, Client.complete_of_ne_staged hne]
    exact (congrArg Prod.snd (Client.teardown_teardown _ _)).symm
  · rw [hrun]

/-- The options that a command line asks for. -/
def optionsOf (inv : Invocation) (env : Environment) : Options :=
  inv.toOptions (Device.backendOf (textOf env.backend))

/-- The machine that the program starts its run on. -/
def begin (inv : Invocation) (env : Environment) (files : FileTree) : Machine Cards :=
  (start files).noteAll (openingRecords inv env)

/-- The arguments ask for a run: there are some, and nothing is wrong with them. -/
def Asks (args : List Argument) (inv : Invocation) : Prop :=
  args ≠ [] ∧ CommandLine.parse args = .ok inv

/-- The program is a run of its client, if its arguments ask for one. -/
theorem run_of_asks (A : Allocator) (jobTime : Nat) {args : List Argument} {inv : Invocation}
    (h : Asks args inv) (env : Environment) (files : FileTree) :
    let effect := run A jobTime args env files
    let r := runClient (platform A jobTime) (fresh (optionsOf inv env)) (begin inv env files)
    effect.status = statusOf r.1 ∧ effect.stdout = r.2.1 ∧ effect.files = r.2.2.files := by
  have hsome : args.isEmpty = false := List.isEmpty_eq_false_iff.2 h.1
  intro effect r
  simp only [effect, run, hsome, h.2]
  exact ⟨rfl, rfl, rfl⟩

/-- The program refuses its arguments, if something is wrong with them. -/
theorem run_of_error (A : Allocator) (jobTime : Nat) {args : List Argument} {e : UsageError}
    (hargs : args ≠ []) (h : CommandLine.parse args = .error (.error e)) (env : Environment)
    (files : FileTree) : run A jobTime args env files = refusing e files := by
  have hsome : args.isEmpty = false := List.isEmpty_eq_false_iff.2 hargs
  simp only [run, hsome, h]
  rfl

end Program

end Offload
