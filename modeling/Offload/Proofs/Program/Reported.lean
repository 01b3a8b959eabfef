/-
**What the program reports is what it submits.**

The program prints the parameters of its client as soon as that is staged, before a card is opened.
Nothing that happens later changes them: the job that a backend is given is the one that was
printed, and the buffers of which the addresses were printed are live then.  The printed list alone
is enough to know the job.

Main results:

* `Program.eq_staging` — of the calls of the program it is the first two that stage the client;
* `Program.described_calls` — what the program submits is what the staged client's parameters say;
* `Program.reported_is_submitted` — **no calls change the parameters of a staged client, every
  submission is described by them, and the list that the program prints tells the job**.
-/

import Offload.Proofs.Client.Listing
import Offload.Proofs.Client.Submission
import Offload.Proofs.Program.Calls

set_option relaxedAutoImplicit false
set_option autoImplicit false

namespace Offload

namespace Program

open Client (afterCalls fresh)
open Software (Cards)

variable {p : Platform Cards} {o : Options} {m : Machine Cards}

/-- Of the calls of the program it is the first two that stage the client. -/
theorem eq_staging {first rest : List Client.Call} (hcalls : calls = first ++ rest)
    (h : (afterCalls p first (fresh o) m).1.stage = .staged) : first = staging := by
  have hlength : first.length ≤ 3 := by
    have := congrArg List.length hcalls
    simp only [calls, staging, List.length_append, List.length_cons, List.length_nil] at this
    omega
  have hfirst : first = calls.take first.length := by
    rw [hcalls, List.take_left]
  generalize first.length = n at hlength hfirst
  subst hfirst
  obtain rfl | rfl | rfl | rfl : n = 0 ∨ n = 1 ∨ n = 2 ∨ n = 3 := by omega
  · cases h
  · have hinput := ends_stageInput p o m
    have hone : (afterCalls p (calls.take 1) (fresh o) m).1 = ((fresh o).stageInput p m).2.1 := rfl
    rw [hone] at h
    generalize (fresh o).stageInput p m = t at hinput h
    obtain ⟨e | _, c, m₁⟩ := t <;> cases hinput.symm.trans h
  · rfl
  · have hthree : (afterCalls p (calls.take 3) (fresh o) m).1 =
        (((prepared p o m).1.finish p (prepared p o m).2).2.1.teardown
          ((prepared p o m).1.finish p (prepared p o m).2).2.2).1 := rfl
    rw [hthree] at h
    rcases Client.stage_teardown ((prepared p o m).1.finish p (prepared p o m).2).2.1
      ((prepared p o m).1.finish p (prepared p o m).2).2.2 with hclosed | hclosed <;>
      cases hclosed.symm.trans h

/-- **What the program submits is what the parameters of its staged client say.** -/
theorem described_calls (hA : p.allocator.Sound) (o : Options) (hm : m.memory.Sound) :
    ∃ submissions, afterCalls p.watched calls (fresh o) (m.watched []) =
        ((afterCalls p calls (fresh o) m).1.watched,
          (afterCalls p calls (fresh o) m).2.watched submissions) ∧
      ∀ s ∈ submissions, (prepared p o m).1.stage = .staged ∧ s.DescribedBy (prepared p o m).1 := by
  obtain ⟨submissions, hrun, hdescribed⟩ := Client.described_afterCalls hA o hm calls
  refine ⟨submissions, hrun, ?_⟩
  intro s hs
  obtain ⟨first, rest, hcalls, hstaged, hs⟩ := hdescribed s hs
  obtain rfl := eq_staging hcalls hstaged
  exact ⟨hstaged, hs⟩

/-- **What is reported is what is submitted.**  Whatever the options, the files and the backends
are, and whatever a client is asked: once it is staged, its parameters never change; and what is
submitted to a backend, at any time, is the job that the parameters of the staged client describe,
on host memory that has the buffers it staged.  The program prints these parameters as a list, and
whatever parameters that list can be of, they ask for the job that it submits; if it prints none, it
submits none. -/
theorem reported_is_submitted {A : Allocator} (hA : A.Sound) :
    (∀ {σ : Type} (backends : Option (List (Backend σ))) (jobTime : Nat) (o : Options)
        (m : Machine σ), m.memory.Sound →
      let p : Platform σ := ⟨A, backends, jobTime⟩
      let after (calls : List Client.Call) := afterCalls p calls (fresh o) m
      (∀ first rest, (after first).1.stage = .staged →
        (after (first ++ rest)).1.params = (after first).1.params) ∧
      ∀ calls, ∃ submissions,
        afterCalls p.watched calls (fresh o) (m.watched []) =
          ((after calls).1.watched, (after calls).2.watched submissions) ∧
        ∀ s ∈ submissions, ∃ first rest, calls = first ++ rest ∧
          (after first).1.stage = .staged ∧ s.DescribedBy (after first).1) ∧
    ∀ (jobTime : Nat) (args : List Argument) (inv : Invocation) (env : Environment)
        (files : FileTree), Asks args inv →
      let p := platform A jobTime
      let o := optionsOf inv env
      let m := begin inv env files
      let effect := run A jobTime args env files
      let after := afterCalls p calls (fresh o) m
      ∃ submissions,
        afterCalls p.watched calls (fresh o) (m.watched []) =
          (after.1.watched, after.2.watched submissions) ∧
        effect.files = (after.1.drop after.2).files ∧
        (effect.stdout = "" ∧ submissions = [] ∨
          ∃ block result, effect.stdout = block ++ "\n" ++ verdict jobTime result ∧
            (prepared p o m).1.stage = .staged ∧
            (prepared p o m).1.params.ListedIn block ∧
            ∀ s ∈ submissions, s.DescribedBy (prepared p o m).1 ∧
              ∀ listed : Parameters, listed.ListedIn block → listed.request.job = .ok s.job) := by
  refine ⟨?_, ?_⟩
  · intro σ backends jobTime o m hm p after
    refine ⟨?_, fun calls => Client.described_afterCalls (p := p) hA o hm calls⟩
    intro first rest hstaged
    simp only [after, Client.afterCalls_append]
    exact Client.params_afterCalls hstaged rest
  · intro jobTime args inv env files hasks p o m effect after
    obtain ⟨submissions, hrun, hdescribed⟩ :=
      described_calls (p := p) (m := m) hA o HostMemory.sound_empty
    obtain ⟨-, hstdout, hfiles⟩ := run_of_asks A jobTime hasks env files
    refine ⟨submissions, hrun, ?_, ?_⟩
    · rw [← machine_runClient]
      exact hfiles
    · rcases runClient_cases p o m with ⟨hfailed, e, hclient⟩ | ⟨hstaged, hclient⟩
      · refine Or.inl ⟨hstdout.trans (congrArg (fun r => r.2.1) hclient), ?_⟩
        refine List.eq_nil_iff_forall_not_mem.2 fun s hs => ?_
        cases hfailed.symm.trans (hdescribed s hs).1
      · have hlisted := Parameters.listedIn_iff.2 (rfl : (prepared p o m).1.params.text = _)
        refine Or.inr ⟨_, _, hstdout.trans (congrArg (fun r => r.2.1) hclient), hstaged, hlisted,
          fun s hs => ⟨(hdescribed s hs).2, fun listed hblock => ?_⟩⟩
        rw [hblock.request_eq hlisted]
        exact (hdescribed s hs).2.job_eq

/-- A run in software that converts one file into another: one job is submitted, and the list that
is printed tells it. -/
theorem reported_is_submitted_file :
    let args : List Argument := [[45, 105], [97], [45, 111], [98]]
    let inv := { Invocation.none with input := some ⟨[97]⟩, output := some ⟨[98]⟩ }
    let env : Environment := ⟨some [67, 80, 85], none, none⟩
    let files : FileTree := { entries := [([[97]], .file (.ofList [65, 98]))], workDir := [] }
    let p := platform .slots 0
    let o := optionsOf inv env
    let m := begin inv env files
    Allocator.slots.Sound ∧ Asks args inv ∧ (prepared p o m).1.stage = .staged ∧
      ∃ (s : Submission) (block verdict : String),
        (afterCalls p.watched calls (fresh o) (m.watched [])).2.devices.2 = [s] ∧
        s.DescribedBy (prepared p o m).1 ∧
        (run .slots 0 args env files).stdout = block ++ "\n" ++ verdict ∧
        (prepared p o m).1.params.ListedIn block ∧
        ∀ listed : Parameters, listed.ListedIn block → listed.request.job = .ok s.job := by
  intro args inv env files p o m
  have hasks : Asks args inv := ⟨by simp [args], by decide +kernel⟩
  have hone : (afterCalls p.watched calls (fresh o) (m.watched [])).2.devices.2.length = 1 := by
    decide +kernel
  have hstaged : (prepared p o m).1.stage = .staged := by decide +kernel
  obtain ⟨submissions, hrun, -, hprinted⟩ :
      ∃ submissions, afterCalls p.watched calls (fresh o) (m.watched []) =
        ((afterCalls p calls (fresh o) m).1.watched,
          (afterCalls p calls (fresh o) m).2.watched submissions) ∧ _ ∧ _ :=
    (reported_is_submitted Allocator.sound_slots).2 0 args inv env files hasks
  have hlist : (afterCalls p.watched calls (fresh o) (m.watched [])).2.devices.2 = submissions := by
    rw [hrun]
    rfl
  obtain ⟨s, hs⟩ := List.length_eq_one_iff.1 hone
  rcases hprinted with ⟨-, hnone⟩ | ⟨block, result, hstdout, -, hlisted, hdescribed⟩
  · cases hnone.symm.trans (hlist.symm.trans hs)
  · obtain ⟨hs', htold⟩ := hdescribed s ((hlist.symm.trans hs) ▸ List.mem_singleton_self s)
    refine ⟨Allocator.sound_slots, hasks, hstaged, s, block, _, hs, hs', hstdout, ?_, htold⟩
    simp only [p, o, m]
    exact hlisted

end Program

end Offload
