/-
**Runs of the program that come to a job.**

When the arguments ask for a run and its client can be staged, the program submits one job.  What
becomes of it depends on the environment.  A value that selects software leads to a card that is
emulated, which always answers with one of two return codes; any other value, and none, leads to a
card for which this program has no backend.

Main definitions:

* `Program.SelectsSoftware` — the environment selects software;
* `Program.Stages` — the arguments ask for a run, and its client is staged;
* `Program.Course` — the courses that the program can take.

Main results:

* `Program.exchange_software`, `Program.exchange_hardware`, `Program.exchange_retc` — **what a job
  comes to in software, and on a card**;
* `Program.Stages.effect`, `Program.Stages.relayed` — **the effect of a run that is staged is what
  its client relays**;
* `Program.Stages.of_software`, `Program.Stages.of_hardware` — what it comes to in software, and on
  a card;
* `Program.course` — the program takes one of its courses.
-/

import Offload.Proofs.Client.Prepare
import Offload.Proofs.Client.Relay
import Offload.Proofs.Program.Calls
import Offload.Proofs.Software.Jobs

set_option relaxedAutoImplicit false
set_option autoImplicit false

namespace Offload

namespace Program

open Client (Finds Ready Relayed Stored exchange jobOf)
open Software (Cards perform)

variable {A : Allocator} {jobTime : Nat} {args : List Argument} {env : Environment}
  {files : FileTree} {inv : Invocation} {c : Client Cards} {m : Machine Cards}

/-! ### Software or a card -/

/-- The environment selects software: the value of its variable is text, and but for blanks around
it and the case of its letters it is the name of the software backend. -/
def SelectsSoftware (env : Environment) : Prop :=
  ∃ v, textOf env.backend = some v ∧ (Text.trim v).map Char.toUpper = Device.software

theorem backend_of_selectsSoftware (h : SelectsSoftware env) (inv : Invocation) :
    (optionsOf inv env).backend = Device.software := by
  obtain ⟨v, hv, hname⟩ := h
  show Device.backendOf (textOf env.backend) = Device.software
  rw [hv, Device.backendOf, if_pos hname]

theorem backend_of_not_selectsSoftware (h : ¬SelectsSoftware env) (inv : Invocation) :
    (optionsOf inv env).backend = Device.hardware := by
  show Device.backendOf (textOf env.backend) = Device.hardware
  cases hv : textOf env.backend with
  | none => rfl
  | some v =>
      rw [Device.backendOf, if_neg]
      exact fun hname => h ⟨v, hv, hname⟩

/-- **In software a job is always done**, on some card memory, and answered with a return code. -/
theorem exchange_software (h : SelectsSoftware env) (A : Allocator) (jobTime : Nat)
    (inv : Invocation) (job : Job) (host : HostMemory) (s : Cards) :
    ∃ card, exchange (platform A jobTime) (optionsOf inv env) job host s =
      .ok ((perform job host card).retc,
        Machine.applyWrites (perform job host card).writes host) := by
  rw [exchange, Platform.attached, backend_of_selectsSoftware h]
  exact ⟨_, rfl⟩

/-- **On a card no job is ever done**: there is no backend that could open it. -/
theorem exchange_hardware (h : ¬SelectsSoftware env) (A : Allocator) (jobTime : Nat)
    (inv : Invocation) (job : Job) (host : HostMemory) (s : Cards) :
    ∃ device reason, exchange (platform A jobTime) (optionsOf inv env) job host s =
      .error (.opening device reason) := by
  rw [exchange, Platform.attached, backend_of_not_selectsSoftware h]
  exact ⟨_, _, rfl⟩

/-- In software a job is answered with one of two return codes, and if it fails, it leaves host
memory as it is. -/
theorem exchange_retc {job : Job} {retc : UInt32} {host host' : HostMemory} {s : Cards}
    (hsoftware : SelectsSoftware env)
    (h : exchange (platform A jobTime) (optionsOf inv env) job host s = .ok (retc, host')) :
    (retc = 0x102 ∨ retc = 0x104) ∧ (retc = 0x104 → host' = host) := by
  obtain ⟨card, hexchange⟩ := exchange_software hsoftware A jobTime inv job host s
  cases h.symm.trans hexchange
  rcases Software.perform_spec job host card with
    ⟨-, -, d, -, -, hretc⟩ | ⟨-, hretc, hwrites, -⟩
  · rw [hretc]
    exact ⟨Or.inl rfl, fun hfailed => by cases hfailed⟩
  · rw [hretc, hwrites]
    exact ⟨Or.inr rfl, fun _ => rfl⟩

/-! ### Runs that are staged -/

/-- The arguments ask for a run, and staging leaves its client and the machine as they are here. -/
structure Stages (A : Allocator) (jobTime : Nat) (args : List Argument) (env : Environment)
    (files : FileTree) (inv : Invocation) (c : Client Cards) (m : Machine Cards) : Prop where
  asks : Asks args inv
  prepared : prepared (platform A jobTime) (optionsOf inv env) (begin inv env files) = (c, m)
  stage : c.stage = .staged

/-- **The effect of a run that is staged is the one of completing it.** -/
theorem Stages.effect (h : Stages A jobTime args env files inv c m) :
    let effect := run A jobTime args env files
    let r := c.complete (platform A jobTime) m
    effect.status = statusOf r.1 ∧
      effect.stdout = c.params.text ++ "\n" ++ verdict jobTime r.1 ∧
      effect.files = r.2.2.files := by
  obtain ⟨hstatus, hstdout, hfiles⟩ := run_of_asks A jobTime h.asks env files
  have hprepared := h.prepared
  rcases runClient_cases (platform A jobTime) (optionsOf inv env) (begin inv env files) with
    ⟨hfailed, -⟩ | ⟨-, hrun⟩
  · rw [hprepared] at hfailed
    cases h.stage.symm.trans hfailed
  · rw [hprepared] at hrun
    rw [hrun] at hstatus hstdout hfiles
    have hdrop := Client.files_teardown (c.complete (platform A jobTime) m).2.1
      (c.complete (platform A jobTime) m).2.2
    exact ⟨hstatus, hstdout, hfiles.trans hdrop⟩

theorem Stages.ready (hA : A.Sound) (h : Stages A jobTime args env files inv c m) :
    Ready (optionsOf inv env) (begin inv env files) c m := by
  have hready := Client.ready_afterCalls (p := platform A jobTime) (m := begin inv env files) hA
    HostMemory.sound_empty (optionsOf inv env)
  have hprepared := h.prepared
  rw [Program.prepared, staging] at hprepared
  simp only [hprepared] at hready
  exact hready h.stage

/-- Staging leaves the files as they are. -/
theorem Stages.files_eq (hA : A.Sound) (h : Stages A jobTime args env files inv c m) :
    m.files = files :=
  (h.ready hA).files

/-- **The result and the files of a run that is staged are what its client relays.** -/
theorem Stages.relayed (hA : A.Sound) (h : Stages A jobTime args env files inv c m) :
    ∃ job, jobOf c.params = .ok job ∧
      Relayed (platform A jobTime) (optionsOf inv env) c job m
        (c.complete (platform A jobTime) m).1 (run A jobTime args env files).files := by
  have hreachable := Client.reachable_afterCalls (p := platform A jobTime) hA
    (.fresh (o := optionsOf inv env) (m := begin inv env files) HostMemory.sound_empty) staging
  have hprepared := h.prepared
  rw [Program.prepared] at hprepared
  rw [hprepared] at hreachable
  obtain ⟨len, -, hjob⟩ := Client.jobOf_eq_ok (h.ready hA).staged.size_lt
  obtain ⟨-, -, hfiles⟩ := h.effect
  exact ⟨_, hjob, hfiles ▸ Client.relayed_complete hreachable h.stage hjob⟩

/-- **A run on a card ends with the error that there is no backend for it**, and writes nothing. -/
theorem Stages.of_hardware (hA : A.Sound) (h : Stages A jobTime args env files inv c m)
    (hhardware : ¬SelectsSoftware env) :
    (run A jobTime args env files).files = files ∧
      ∃ device reason, (c.complete (platform A jobTime) m).1 = .error (.opening device reason) := by
  obtain ⟨job, -, hrelayed⟩ := h.relayed hA
  obtain ⟨device, reason, hrefused⟩ :=
    exchange_hardware hhardware A jobTime inv job m.memory m.devices
  obtain ⟨hresult, hfiles⟩ := hrelayed.unique (.refused hrefused)
  exact ⟨hfiles.trans (h.files_eq hA), device, reason, hresult⟩

/-- **A run in software executes its job, then writes the output file, then looks at the return
code, and then compares**, as far as it comes. -/
theorem Stages.of_software (hA : A.Sound) (h : Stages A jobTime args env files inv c m)
    (hsoftware : SelectsSoftware env) :
    let o := optionsOf inv env
    let result := (c.complete (platform A jobTime) m).1
    let after := (run A jobTime args env files).files
    ∃ job retc host, jobOf c.params = .ok job ∧
      exchange (platform A jobTime) o job m.memory m.devices = .ok (retc, host) ∧
      ((∃ e, Stored o c.params.size c.output host files (.error e) ∧ result = .error e ∧
          after = files) ∨
        Stored o c.params.size c.output host files (.ok after) ∧
          (retc = 0x104 ∧ result = .error (.returnCode retc) ∨
            retc = 0x102 ∧ ∃ v, Finds o c.input c.output host v ∧ result = .ok ⟨retc, v⟩)) := by
  intro o result after
  obtain ⟨job, hjob, hrelayed⟩ : ∃ job, jobOf c.params = .ok job ∧
      Relayed (platform A jobTime) o c job m result after := h.relayed hA
  obtain ⟨card, hexchange⟩ := exchange_software hsoftware A jobTime inv job m.memory m.devices
  obtain ⟨hretc, -⟩ := exchange_retc hsoftware hexchange
  refine ⟨job, _, _, hjob, hexchange, ?_⟩
  rw [← h.files_eq hA]
  clear_value result after
  cases hrelayed with
  | refused hexchange' => cases hexchange.symm.trans hexchange'
  | unwritten hexchange' hstored =>
      cases hexchange.symm.trans hexchange'
      exact Or.inl ⟨_, hstored, rfl, rfl⟩
  | failed hexchange' hstored hne =>
      cases hexchange.symm.trans hexchange'
      exact Or.inr ⟨hstored, Or.inl ⟨hretc.resolve_left hne, rfl⟩⟩
  | done hexchange' hstored hsuccess hfinds =>
      cases hexchange.symm.trans hexchange'
      exact Or.inr ⟨hstored, Or.inr ⟨hsuccess, _, hfinds, rfl⟩⟩

/-! ### Courses -/

/-- What is printed as the answer to a question. -/
def answerTo : Inquiry → String
  | .help => CommandLine.help
  | .version => CommandLine.version

/-- The courses that the program can take.  Only the last of them comes to a job. -/
inductive Course (A : Allocator) (jobTime : Nat) (args : List Argument) (env : Environment)
    (files : FileTree) : Prop
  | unasked (hargs : args = [])
      (heffect : run A jobTime args env files = printing 1 CommandLine.help files)
  | answered {i : Inquiry} (hargs : args ≠ [])
      (hparse : CommandLine.parse args = .error (.inquiry i))
      (heffect : run A jobTime args env files = printing 0 (answerTo i) files)
  | misused {e : UsageError} (hargs : args ≠ [])
      (hparse : CommandLine.parse args = .error (.error e))
      (heffect : run A jobTime args env files = refusing e files)
  | unstaged {inv : Invocation} (hasks : Asks args inv)
      (hfailed : (Program.prepared (platform A jobTime) (optionsOf inv env)
        (begin inv env files)).1.stage = .failed)
      (hstatus : (run A jobTime args env files).status = 1)
      (hstdout : (run A jobTime args env files).stdout = "")
      (hfiles : (run A jobTime args env files).files = files)
  | staged {inv : Invocation} {c : Client Cards} {m : Machine Cards}
      (h : Stages A jobTime args env files inv c m)

theorem course_of_asks (A : Allocator) (jobTime : Nat) (h : Asks args inv) (env : Environment)
    (files : FileTree) : Course A jobTime args env files := by
  obtain ⟨hstatus, hstdout, hfiles⟩ := run_of_asks A jobTime h env files
  rcases runClient_cases (platform A jobTime) (optionsOf inv env) (begin inv env files) with
    ⟨hfailed, e, hrun⟩ | ⟨hstaged, -⟩
  · rw [hrun] at hstatus hstdout hfiles
    have hdrop := Client.files_teardown
      (prepared (platform A jobTime) (optionsOf inv env) (begin inv env files)).1
      (prepared (platform A jobTime) (optionsOf inv env) (begin inv env files)).2
    exact Course.unstaged h hfailed hstatus hstdout
      (hfiles.trans (hdrop.trans (files_prepared _ _ _)))
  · exact Course.staged ⟨h, rfl, hstaged⟩

/-- **The program takes one of the courses**, whatever its arguments, the environment and the files
are. -/
theorem course (A : Allocator) (jobTime : Nat) (args : List Argument) (env : Environment)
    (files : FileTree) : Course A jobTime args env files := by
  by_cases hargs : args = []
  · exact Course.unasked hargs (by rw [hargs]; rfl)
  · have hsome : args.isEmpty = false := List.isEmpty_eq_false_iff.2 hargs
    rcases hparse : CommandLine.parse args with (i | e) | inv
    · refine Course.answered hargs hparse ?_
      cases i <;> simp only [run, hsome, hparse] <;> rfl
    · exact Course.misused hargs hparse (run_of_error A jobTime hargs hparse env files)
    · exact course_of_asks A jobTime ⟨hargs, hparse⟩ env files

end Program

end Offload
