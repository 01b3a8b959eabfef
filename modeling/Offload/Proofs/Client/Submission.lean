/-
**What is submitted is what was reported.**

The parameters of a client are settled when it is staged.  From then on nothing changes them, so
that whoever looks at them then knows the job that a backend is given later, whatever is asked of
the client in between; and at that time host memory has every range that the client staged for the
job.

Main definitions:

* `Submission.DescribedBy` — a submission is what a client's parameters say.

Main results:

* `Client.params_afterCalls` — **the parameters of a staged client never change**;
* `Client.exists_staged` — a client that may submit a job was staged before, with the same
  parameters and buffers;
* `Client.describedBy_of_submits` — what a client submits is what its parameters say;
* `Submission.DescribedBy.job_eq` — it is the job that they ask for;
* `Client.described_afterCalls` — **so is everything that is submitted during any calls**.
-/

import Offload.Proofs.Client.Atomicity
import Offload.Proofs.Client.Invariant
import Offload.Proofs.Client.Watched
import Mathlib.Data.List.Induction

set_option relaxedAutoImplicit false
set_option autoImplicit false

namespace Offload

variable {σ : Type}

/-- A submission is what the parameters of a client say: a job with a return code of zero that reads
and writes what the parameters say, as many bytes as they say; and host memory has the ranges of the
buffers that the client staged, the one for the output with the guard. -/
structure Submission.DescribedBy (s : Submission) (c : Client σ) : Prop where
  retc : s.job.retc = 0
  regions : ∃ len : UInt32, len.toNat = c.params.size ∧
    s.job.input = ⟨c.params.addrIn, len, c.params.spaceIn, .ofSource⟩ ∧
    s.job.output = ⟨c.params.addrOut, len, c.params.spaceOut, .ofDestination⟩
  source : c.input.isSome = true → s.host.staged c.params.addrIn c.params.size = true
  target : c.output.isSome = true →
    s.host.staged c.params.addrOut (c.params.size + if c.options.verify then 1024 else 0) = true
  timeout : s.timeout = c.options.timeout

/-- The job of a submission is the one that the parameters ask for. -/
theorem Submission.DescribedBy.job_eq {s : Submission} {c : Client σ} (h : s.DescribedBy c) :
    c.params.request.job = .ok s.job := by
  obtain ⟨⟨retc, input, output⟩, timeout, host⟩ := s
  obtain ⟨hretc, ⟨len, hlen, hinput, houtput⟩, -, -, -⟩ := h
  have hlt : c.params.size < UInt32.size := hlen ▸ len.toNat_lt
  obtain ⟨len', hlen', hjob⟩ := Client.jobOf_eq_ok hlt
  obtain rfl : len' = len := UInt32.toNat_inj.1 (hlen'.trans hlen.symm)
  simp only at hretc hinput houtput
  rw [hretc, hinput, houtput]
  exact hjob

namespace Client

open Machine (Holding)

variable {p : Platform σ} {o : Options} {c : Client σ} {m : Machine σ} {new : List Submission}
  {others : List HostBuffer}

/-! ### Parameters -/

/-- The client is staged, or past that. -/
def PastStaging (c : Client σ) : Prop := c.stage ≠ .unconfigured ∧ c.stage ≠ .inputStaged

/-- Once a client is staged, no move changes its parameters. -/
theorem preserved_params (p : Platform σ) (params : Parameters) :
    Preserved p fun c (_ : Machine σ) => PastStaging c ∧ c.params = params where
  advance := by
    rintro c m step a c' m' hstage ⟨⟨hfresh, hhalf⟩, hparams⟩ hadv
    cases hadv with
    | noInput hinput => exact absurd hstage hfresh
    | input hinput hload => exact absurd hstage hfresh
    | noOutput hsize houtput => exact absurd hstage hhalf
    | output hsize houtput hbuffer => exact absurd hstage hhalf
    | session hacquire => exact ⟨⟨by simp, by simp⟩, hparams⟩
    | executed hjob hsubmit => exact ⟨⟨by simp, by simp⟩, hparams⟩
    | written hpath hbuffer hwrite => exact ⟨⟨hfresh, hhalf⟩, hparams⟩
    | unwritten hnone => exact ⟨⟨hfresh, hhalf⟩, hparams⟩
    | returnCode hjob hretc => exact ⟨⟨hfresh, hhalf⟩, hparams⟩
    | compared hverify hspaces hinput houtput => exact ⟨⟨by simp, by simp⟩, hparams⟩
    | skipped hwhy hm => exact ⟨⟨by simp, by simp⟩, hparams⟩
  setback := by
    rintro c m step e m' - ⟨-, hparams⟩ -
    have hfailed := stage_fail (α := Answer) e c m'
    exact ⟨⟨by rw [hfailed]; decide, by rw [hfailed]; decide⟩, hparams⟩
  teardown := by
    rintro c m ⟨-, hparams⟩
    have hclosed := stage_teardown c m
    refine ⟨⟨?_, ?_⟩, hparams⟩ <;> rcases hclosed with h | h <;> rw [h] <;> decide

/-- **The parameters of a staged client never change.** -/
theorem params_afterCalls (hstage : c.stage = .staged) (calls : List Call) :
    (afterCalls p calls c m).1.params = c.params := by
  have hpast : PastStaging c := by
    rw [PastStaging, hstage]
    decide
  exact ((preserved_params p c.params).afterCalls ⟨hpast, rfl⟩ calls).2

/-! ### Ranges -/

/-- A live buffer is staged over its whole length. -/
theorem staged_of_mem {host : HostMemory} (hhost : host.Sound) {b : HostBuffer}
    (hb : b ∈ host.live) : host.staged b.addr b.size = true :=
  (HostMemory.staged_iff_exists hhost).2
    ⟨(hhost.placed b hb).inside, b, hb, Nat.le_refl _, Nat.le_refl _⟩

/-- **What a client submits is what its parameters say.** -/
theorem describedBy_of_submits (hst : Staged c.options c.input c.output c.params)
    (hheld : Holding c.buffers others m) (hsubmits : Submits c m new) :
    ∀ s ∈ new, s.DescribedBy c := by
  intro s hs
  rcases hsubmits with rfl | ⟨job, hjob, rfl⟩
  · cases hs
  obtain rfl := List.mem_singleton.1 hs
  obtain ⟨len, hlen, hjob'⟩ := jobOf_eq_ok hst.size_lt
  rw [hjob, Except.ok.injEq] at hjob'
  subst hjob'
  refine ⟨rfl, ⟨len, hlen, rfl, rfl⟩, ?_, ?_, rfl⟩
  · intro hinput
    obtain ⟨b, hb⟩ := Option.isSome_iff_exists.1 hinput
    obtain ⟨hsize, -, haddr⟩ := hst.source_of_some hb
    rw [hsize, haddr]
    exact staged_of_mem hheld.sound (hheld.mem_live (mem_buffers_of_input hb))
  · intro houtput
    obtain ⟨b, hb⟩ := Option.isSome_iff_exists.1 houtput
    obtain ⟨hsize, -, haddr⟩ := hst.target_of_some hb
    rw [haddr, ← hsize]
    exact staged_of_mem hheld.sound (hheld.mem_live (mem_buffers_of_output hb))

/-! ### Calls -/

/-- A client may submit a job when it is staged, or when it has opened a session. -/
def MaySubmit (c : Client σ) : Prop := c.stage = .staged ∨ c.stage = .sessionOpen

/-- A call that leaves a client which may submit a job has staged it, or has changed its session and
no more. -/
theorem maySubmit_answer (call : Call) (h : MaySubmit (c.answer p m call).2.1) :
    (c.answer p m call).2.1.stage = .staged ∨ MaySubmit c ∧
      ∃ stage session, (c.answer p m call).2.1 = { c with stage, session } := by
  have hclosed : ∀ {c' : Client σ} {m' : Machine σ}, ¬MaySubmit (c'.teardown m').1 := by
    intro c' m' hready
    rcases stage_teardown c' m' with hstage | hstage <;> rw [MaySubmit, hstage] at hready <;>
      revert hready <;> decide
  cases call with
  | complete => exact absurd h hclosed
  | teardown => exact absurd h hclosed
  | step step =>
      by_cases hstage : c.stage = step.requires
      · have hcases := answerStep_cases (p := p) (m := m) hstage
        simp only [answer] at h ⊢
        rcases hcases with ⟨e, m', -, heq⟩ | ⟨a, c', m', hadv, heq⟩
        · rw [heq] at h
          exact absurd h hclosed
        · rw [heq] at h ⊢
          cases hadv with
          | noInput hinput => rcases h with h | h <;> cases h
          | input hinput hload => rcases h with h | h <;> cases h
          | noOutput hsize houtput => exact Or.inl rfl
          | output hsize houtput hbuffer => exact Or.inl rfl
          | session hacquire => exact Or.inr ⟨Or.inl hstage, _, _, rfl⟩
          | executed hjob hsubmit => rcases h with h | h <;> cases h
          | written hpath hbuffer hwrite => exact Or.inr ⟨h, c.stage, c.session, rfl⟩
          | unwritten hnone => exact Or.inr ⟨h, c.stage, c.session, rfl⟩
          | returnCode hjob hretc => exact Or.inr ⟨h, c.stage, c.session, rfl⟩
          | compared hverify hspaces hinput houtput => rcases h with h | h <;> cases h
          | skipped hwhy hm => rcases h with h | h <;> cases h
      · rw [answer_of_ne_requires hstage] at h ⊢
        exact Or.inr ⟨h, c.stage, c.session, rfl⟩

/-- A client that may submit a job was staged before, and only its stage and its session have
changed since. -/
theorem exists_staged (p : Platform σ) (o : Options) (m : Machine σ) (calls : List Call)
    (h : MaySubmit (afterCalls p calls (fresh o) m).1) :
    ∃ first rest, calls = first ++ rest ∧ (afterCalls p first (fresh o) m).1.stage = .staged ∧
      ∃ stage session, (afterCalls p calls (fresh o) m).1 =
        { (afterCalls p first (fresh o) m).1 with stage, session } := by
  -- By induction on the calls, the last one first: it staged the client, or the ones before did.
  induction calls using List.reverseRecOn with
  | nil => rcases h with h | h <;> cases h
  | append_singleton calls call ih =>
      have hlast : afterCalls p (calls ++ [call]) (fresh o) m =
          ((afterCalls p calls (fresh o) m).1.answer p
            (afterCalls p calls (fresh o) m).2 call).2 := by
        rw [afterCalls_append, afterCalls_cons, afterCalls_nil]
      rw [hlast] at h
      rcases maySubmit_answer call h with hstaged | ⟨hbefore, stage, session, hsame⟩
      · exact ⟨calls ++ [call], [], (List.append_nil _).symm, hlast ▸ hstaged, _, _, rfl⟩
      · obtain ⟨first, rest, rfl, hstaged, stage', session', hc⟩ := ih hbefore
        refine ⟨first, rest ++ [call], List.append_assoc _ _ _, hstaged, stage, session, ?_⟩
        rw [hlast, hsame, hc]

/-- What a staged client has staged is what its options say. -/
theorem staged_afterCalls (p : Platform σ) (o : Options) (m : Machine σ) (calls : List Call)
    (h : (afterCalls p calls (fresh o) m).1.stage = .staged) :
    let c := (afterCalls p calls (fresh o) m).1
    Staged c.options c.input c.output c.params := by
  have hphase : Phase o (afterCalls p calls (fresh o) m).1 :=
    (preserved_phase p o).afterCalls (phase_fresh o) calls
  simp only [hphase.options]
  exact hphase.staged_of_stage h

/-- **Watching changes nothing, and everything that is submitted during any calls is what the
parameters said when the client was staged.** -/
theorem described_afterCalls (hA : p.allocator.Sound) (o : Options) (hm : m.memory.Sound)
    (calls : List Call) :
    ∃ submissions, afterCalls p.watched calls (fresh o) (m.watched []) =
        ((afterCalls p calls (fresh o) m).1.watched,
          (afterCalls p calls (fresh o) m).2.watched submissions) ∧
      ∀ s ∈ submissions, ∃ first rest, calls = first ++ rest ∧
        (afterCalls p first (fresh o) m).1.stage = .staged ∧
        s.DescribedBy (afterCalls p first (fresh o) m).1 := by
  induction calls using List.reverseRecOn with
  | nil => exact ⟨[], rfl, fun s hs => by cases hs⟩
  | append_singleton calls call ih =>
      obtain ⟨submissions, hrun, hold⟩ := ih
      obtain ⟨new, hanswer, hsubmits, hnone⟩ := answer_watched p (afterCalls p calls (fresh o) m).1
        (afterCalls p calls (fresh o) m).2 submissions call
      refine ⟨submissions ++ new, ?_, ?_⟩
      · rw [afterCalls_append, hrun, afterCalls_append]
        simp only [afterCalls_cons, afterCalls_nil, hanswer]
        rfl
      · intro s hs
        rcases List.mem_append.1 hs with hs | hs
        · obtain ⟨first, rest, rfl, hstaged, hdescribed⟩ := hold s hs
          exact ⟨first, rest ++ [call], List.append_assoc _ _ _, hstaged, hdescribed⟩
        · have hready : MaySubmit (afterCalls p calls (fresh o) m).1 := by
            by_contra hnot
            rw [MaySubmit, not_or] at hnot
            rw [hnone hnot.1 hnot.2] at hs
            cases hs
          obtain ⟨first, rest, hcalls, hstaged, stage, session, hc⟩ :=
            exists_staged p o m calls hready
          have hst := staged_afterCalls p o m first hstaged
          obtain ⟨others, hheld⟩ := (reachable_afterCalls hA (.fresh hm) calls).holding.2
          rw [hc] at hheld hsubmits
          refine ⟨first, rest ++ [call], by rw [hcalls, List.append_assoc], hstaged, ?_⟩
          obtain ⟨hretc, hregions, hsource, htarget, htimeout⟩ :=
            describedBy_of_submits hst hheld hsubmits s hs
          exact ⟨hretc, hregions, hsource, htarget, htimeout⟩

end Client

end Offload
