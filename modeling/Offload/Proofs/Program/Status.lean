/-
**Exit status and standard output.**

What the program prints and its exit status go together: there are seven ways in which it can end,
and each has its causes, its output and its status.  Once the client is staged, the list of its
parameters is printed, whatever comes after it.  The status that tells a mismatch from success comes
after the verdict for success only, and in software exactly when the input has a lower-case letter,
since the action turns that into another byte.

Main definitions:

* `Error.Interrupts` — the errors between staging and the return code;
* `Program.Prints` — the list of the parameters is printed, and a verdict;
* `Program.Conclusion` — the seven ways in which the program can end;
* `Program.Conclusion.Holds` — what each of them says.

Main results:

* `Program.Conclusion.holds_iff` — **the program ends in exactly one of the ways**;
* `Program.Stages.failure_printed_iff` — **when a failure is printed**;
* `Program.Stages.status_mismatch_iff`, `Program.status_software_iff` — **when the status is that of
  a mismatch**, and what the input has to do with it;
* `Program.status_and_output` — exit status and standard output agree.
-/

import Offload.Proofs.Client.Listing
import Offload.Proofs.Program.Staged
import Offload.Proofs.Software.Transfer

set_option relaxedAutoImplicit false
set_option autoImplicit false

namespace Offload

/-- An error that ends a run after staging and before the return code is looked at: that of opening
the card, attaching the action, executing the job or writing the output file. -/
def Error.Interrupts : Error → Prop
  | opening _ _ => True
  | attaching _ _ _ => True
  | executing _ _ => True
  | writing _ _ _ => True
  | _ => False

namespace Program

open Client (Finds Stored exchange jobOf)
open Software (Cards)

variable {A : Allocator} {jobTime : Nat} {args : List Argument} {env : Environment}
  {files : FileTree} {inv : Invocation} {c : Client Cards} {m : Machine Cards}
  {result : Except Error RunReport}

/-! ### Verdicts -/

/-- On standard output there is the list of the parameters, a line break, and then a verdict. -/
def Prints (params : Parameters) (verdict stdout : String) : Prop :=
  ∃ block, params.ListedIn block ∧ stdout = block ++ "\n" ++ verdict

theorem prints_iff {params : Parameters} {verdict stdout : String} :
    Prints params verdict stdout ↔ stdout = params.text ++ "\n" ++ verdict := by
  constructor
  · rintro ⟨block, hlisted, hstdout⟩
    rw [hstdout, Parameters.listedIn_iff.1 hlisted]
  · exact fun hstdout => ⟨_, Parameters.listedIn_iff.2 rfl, hstdout⟩

theorem lt_length_append {n : Nat} {a : String} (h : n < a.length) (b d : String) :
    n < (a ++ b ++ d).length := by
  rw [String.length_append, String.length_append]
  omega

/-- The verdict for success is longer than the other ones, however long the job took. -/
theorem successText_ne (jobTime : Nat) :
    successText jobTime ≠ failureText ∧ successText jobTime ≠ "" := by
  have hlt : failureText.length < (successText jobTime).length :=
    lt_length_append (by decide +kernel) _ _
  refine ⟨?_, ?_⟩
  · intro h
    rw [h] at hlt
    exact Nat.lt_irrefl _ hlt
  · intro h
    rw [h] at hlt
    exact Nat.not_lt_zero _ hlt

theorem failureText_ne : failureText ≠ "" := by decide +kernel

/-- The verdict tells success from failure, and both from an interruption. -/
theorem verdict_cases (jobTime : Nat) (result : Except Error RunReport) :
    (verdict jobTime result = successText jobTime ↔ ∃ report, result = .ok report) ∧
      (verdict jobTime result = failureText ↔ ∃ retc, result = .error (.returnCode retc)) := by
  obtain ⟨hfailure, hempty⟩ := successText_ne jobTime
  rcases result with e | report
  · cases e with
    | returnCode retc => simp [verdict, hfailure.symm]
    | _ => simp [verdict, hempty.symm, failureText_ne.symm]
  · simp [verdict, hfailure]

theorem statusOf_cases (result : Except Error RunReport) :
    statusOf result = 0 ∨ statusOf result = 1 ∨ statusOf result = 65 := by
  rcases result with e | ⟨retc, - | - | -⟩
  · exact Or.inr (Or.inl rfl)
  · exact Or.inl rfl
  · exact Or.inr (Or.inr rfl)
  · exact Or.inl rfl

/-- The status of a mismatch is that of reports of a mismatch. -/
theorem statusOf_eq_iff (result : Except Error RunReport) :
    statusOf result = 65 ↔
      ∃ retc first dirty, result = .ok ⟨retc, .mismatch first dirty⟩ := by
  have hone : ¬(1 : UInt8) = 65 := by decide
  have hzero : ¬(0 : UInt8) = 65 := by decide
  rcases result with e | ⟨retc, - | ⟨first, dirty⟩ | -⟩
  · exact iff_of_false hone (by simp)
  · exact iff_of_false hzero (by simp)
  · exact iff_of_true rfl ⟨retc, first, dirty, rfl⟩
  · exact iff_of_false hzero (by simp)

/-! ### Conclusions -/

/-- The ways in which the program can end. -/
inductive Conclusion where
  /-- There were no arguments. -/
  | unasked
  /-- Help or version was asked for. -/
  | answered
  /-- Something else was wrong with the arguments. -/
  | misused
  /-- The client could not be staged. -/
  | unstaged
  /-- An error came between staging and the return code. -/
  | interrupted
  /-- The job was executed and reported a failure. -/
  | failed
  /-- The job was executed and reported success. -/
  | succeeded
  deriving DecidableEq, Repr

namespace Conclusion

/-- What a way to end says: what it comes from, what is printed, and the exit status. -/
def Holds (A : Allocator) (jobTime : Nat) (args : List Argument) (env : Environment)
    (files : FileTree) (k : Conclusion) : Prop :=
  let p := platform A jobTime
  let effect := run A jobTime args env files
  match k with
  | unasked => args = [] ∧ effect.stdout = CommandLine.help ∧ effect.status = 1
  | answered =>
    ∃ i, args ≠ [] ∧ CommandLine.parse args = .error (.inquiry i) ∧
      effect.stdout = answerTo i ∧ effect.status = 0
  | misused =>
    ∃ e, args ≠ [] ∧ CommandLine.parse args = .error (.error e) ∧
      effect.stdout = "" ∧ effect.status = 1
  | unstaged =>
    ∃ inv, Asks args inv ∧
      (prepared p (optionsOf inv env) (begin inv env files)).1.stage ≠ .staged ∧
      effect.stdout = "" ∧ effect.status = 1
  | interrupted =>
    ∃ inv c m e, Stages A jobTime args env files inv c m ∧ (c.complete p m).1 = .error e ∧
      e.Interrupts ∧ Prints c.params "" effect.stdout ∧ effect.status = 1
  | failed =>
    ∃ inv c m retc, Stages A jobTime args env files inv c m ∧
      (c.complete p m).1 = .error (.returnCode retc) ∧ retc ≠ 0x102 ∧
      Prints c.params "FAILED\n" effect.stdout ∧ effect.status = 1
  | succeeded =>
    ∃ inv c m report, Stages A jobTime args env files inv c m ∧
      (c.complete p m).1 = .ok report ∧
      Prints c.params ("SUCCESS\nhelloaccel took " ++ toString (jobTime / 1000) ++ " usec\n")
        effect.stdout ∧
      (effect.status = 0 ∨ effect.status = 65)

/-- The way to end that a result stands for. -/
def ofResult : Except Error RunReport → Conclusion
  | .ok _ => succeeded
  | .error (.returnCode _) => failed
  | .error _ => interrupted

/-- The way in which the program ends. -/
def of (A : Allocator) (jobTime : Nat) (args : List Argument) (env : Environment)
    (files : FileTree) : Conclusion :=
  if args = [] then unasked
  else
    match CommandLine.parse args with
    | .error (.inquiry _) => answered
    | .error (.error _) => misused
    | .ok inv =>
      let p := platform A jobTime
      let s := prepared p (optionsOf inv env) (begin inv env files)
      if s.1.stage = .staged then ofResult (s.1.complete p s.2).1 else unstaged

theorem of_stages (h : Stages A jobTime args env files inv c m) :
    of A jobTime args env files = ofResult (c.complete (platform A jobTime) m).1 := by
  rw [of, if_neg h.asks.1, h.asks.2]
  simp only [h.prepared, if_pos h.stage]

theorem ofResult_of_interrupts {e : Error} (h : e.Interrupts) :
    ofResult (.error e) = interrupted := by
  cases e with
  | returnCode retc => exact absurd h id
  | _ => rfl

/-- No other way than the one in which the program ends holds. -/
theorem eq_of_holds {k : Conclusion} (h : k.Holds A jobTime args env files) :
    k = of A jobTime args env files := by
  cases k with
  | unasked =>
      obtain ⟨hargs, -⟩ := h
      rw [of, if_pos hargs]
  | answered =>
      obtain ⟨i, hargs, hparse, -⟩ := h
      rw [of, if_neg hargs, hparse]
  | misused =>
      obtain ⟨e, hargs, hparse, -⟩ := h
      rw [of, if_neg hargs, hparse]
  | unstaged =>
      obtain ⟨inv, hasks, hstage, -⟩ := h
      rw [of, if_neg hasks.1, hasks.2]
      exact (if_neg hstage).symm
  | interrupted =>
      obtain ⟨inv, c, m, e, hstages, hresult, hinterrupts, -⟩ := h
      rw [of_stages hstages, hresult, ofResult_of_interrupts hinterrupts]
  | failed =>
      obtain ⟨inv, c, m, retc, hstages, hresult, -⟩ := h
      rw [of_stages hstages, hresult]
      rfl
  | succeeded =>
      obtain ⟨inv, c, m, report, hstages, hresult, -⟩ := h
      rw [of_stages hstages, hresult]
      rfl

/-- A run that is staged is interrupted, or its job fails or succeeds. -/
theorem holds_of_stages (hA : A.Sound) (h : Stages A jobTime args env files inv c m) :
    ∃ k : Conclusion, k.Holds A jobTime args env files := by
  obtain ⟨hstatus, hstdout, -⟩ := h.effect
  have hprints := prints_iff.2 hstdout
  by_cases hsoftware : SelectsSoftware env
  · obtain ⟨job, retc, host, -, -, ⟨e, hstored, hresult, -⟩ |
      ⟨-, ⟨hfailed, hresult⟩ | ⟨-, v, -, hresult⟩⟩⟩ := h.of_software hA hsoftware <;>
      rw [hresult] at hstatus hprints
    · obtain ⟨path, cause, rfl⟩ := hstored.eq_writing
      exact ⟨interrupted, inv, c, m, _, h, hresult, trivial, hprints, hstatus⟩
    · exact ⟨failed, inv, c, m, retc, h, hresult, hfailed ▸ by decide, hprints, hstatus⟩
    · refine ⟨succeeded, inv, c, m, _, h, hresult, hprints, ?_⟩
      rw [hstatus]
      cases v with
      | mismatch => exact Or.inr rfl
      | _ => exact Or.inl rfl
  · obtain ⟨-, device, reason, hresult⟩ := h.of_hardware hA hsoftware
    rw [hresult] at hstatus hprints
    exact ⟨interrupted, inv, c, m, _, h, hresult, trivial, hprints, hstatus⟩

/-- **The program ends in exactly one of the ways.** -/
theorem holds_iff (hA : A.Sound) (jobTime : Nat) (args : List Argument) (env : Environment)
    (files : FileTree) (k : Conclusion) :
    k.Holds A jobTime args env files ↔ k = of A jobTime args env files := by
  refine ⟨eq_of_holds, ?_⟩
  rintro rfl
  obtain ⟨k, hk⟩ : ∃ k : Conclusion, k.Holds A jobTime args env files := by
    cases course A jobTime args env files with
    | unasked hargs heffect =>
        exact ⟨unasked, hargs, congrArg Effect.stdout heffect, congrArg Effect.status heffect⟩
    | @answered i hargs hparse heffect =>
        exact ⟨answered, i, hargs, hparse, congrArg Effect.stdout heffect,
          congrArg Effect.status heffect⟩
    | @misused e hargs hparse heffect =>
        exact ⟨misused, e, hargs, hparse, congrArg Effect.stdout heffect,
          congrArg Effect.status heffect⟩
    | @unstaged inv hasks hfailed hstatus hstdout _ =>
        exact ⟨unstaged, inv, hasks, by rw [hfailed]; decide, hstdout, hstatus⟩
    | staged h => exact holds_of_stages hA h
  exact eq_of_holds hk ▸ hk

end Conclusion

/-! ### What the verdict and the status tell -/

theorem Stages.prints_iff (h : Stages A jobTime args env files inv c m) (text : String) :
    Prints c.params text (run A jobTime args env files).stdout ↔
      verdict jobTime (c.complete (platform A jobTime) m).1 = text := by
  obtain ⟨-, hstdout, -⟩ := h.effect
  rw [Program.prints_iff, hstdout, String.append_right_inj]

/-- Only a run in software comes to a report. -/
theorem Stages.software_of_ok (hA : A.Sound) (h : Stages A jobTime args env files inv c m)
    {report : RunReport} (hresult : (c.complete (platform A jobTime) m).1 = .ok report) :
    SelectsSoftware env := by
  by_contra hhardware
  obtain ⟨-, device, reason, hrefused⟩ := h.of_hardware hA hhardware
  cases hresult.symm.trans hrefused

/-- **A failure is printed exactly if the job was executed, the output file, if there is to be one,
was written, and the return code is not the one for success.** -/
theorem Stages.failure_printed_iff (hA : A.Sound) (h : Stages A jobTime args env files inv c m) :
    Prints c.params "FAILED\n" (run A jobTime args env files).stdout ↔
      ∃ job retc host written, jobOf c.params = .ok job ∧
        exchange (platform A jobTime) (optionsOf inv env) job m.memory m.devices =
          .ok (retc, host) ∧
        Stored (optionsOf inv env) c.params.size c.output host files (.ok written) ∧
        retc ≠ 0x102 := by
  refine ((h.prints_iff _).trans (verdict_cases jobTime _).2).trans ?_
  constructor
  · rintro ⟨code, hcode⟩
    by_cases hsoftware : SelectsSoftware env
    · obtain ⟨job, retc, host, hjob, hexchange, ⟨e, hstored, hresult, -⟩ |
        ⟨hstored, ⟨hfailed, -⟩ | ⟨-, v, -, hresult⟩⟩⟩ := h.of_software hA hsoftware
      · obtain ⟨path, cause, rfl⟩ := hstored.eq_writing
        cases hcode.symm.trans hresult
      · exact ⟨job, retc, host, _, hjob, hexchange, hstored, hfailed ▸ by decide⟩
      · cases hcode.symm.trans hresult
    · obtain ⟨-, device, reason, hresult⟩ := h.of_hardware hA hsoftware
      cases hcode.symm.trans hresult
  · rintro ⟨job, retc, host, written, hjob, hexchange, hstored, hfailed⟩
    obtain ⟨job', hjob', hrelayed⟩ := h.relayed hA
    cases hjob.symm.trans hjob'
    rw [← h.files_eq hA] at hstored
    exact ⟨retc, (hrelayed.unique (.failed hexchange hstored hfailed)).1⟩

/-- What is found after a job that is reported as done. -/
theorem Stages.found (hA : A.Sound) (h : Stages A jobTime args env files inv c m)
    {retc : UInt32} {v : Verification}
    (hresult : (c.complete (platform A jobTime) m).1 = .ok ⟨retc, v⟩) :
    ∃ job host, jobOf c.params = .ok job ∧
      exchange (platform A jobTime) (optionsOf inv env) job m.memory m.devices = .ok (retc, host) ∧
      Finds (optionsOf inv env) c.input c.output host v := by
  obtain ⟨job, retc', host, hjob, hexchange, ⟨e, -, hresult', -⟩ |
    ⟨-, ⟨-, hresult'⟩ | ⟨-, v', hfinds, hresult'⟩⟩⟩ :=
    h.of_software hA (h.software_of_ok hA hresult)
  · cases hresult.symm.trans hresult'
  · cases hresult.symm.trans hresult'
  · cases hresult.symm.trans hresult'
    exact ⟨job, host, hjob, hexchange, hfinds⟩

/-- **The status is that of a mismatch exactly if success is printed and a comparison of the staged
buffers, which was asked for, finds a mismatch.** -/
theorem Stages.status_mismatch_iff (hA : A.Sound) (h : Stages A jobTime args env files inv c m) :
    (run A jobTime args env files).status = 65 ↔
      Prints c.params ("SUCCESS\nhelloaccel took " ++ toString (jobTime / 1000) ++ " usec\n")
          (run A jobTime args env files).stdout ∧
        inv.verify = true ∧
        ∃ job retc host first dirty, jobOf c.params = .ok job ∧
          exchange (platform A jobTime) (optionsOf inv env) job m.memory m.devices =
            .ok (retc, host) ∧
          Finds (optionsOf inv env) c.input c.output host (.mismatch first dirty) := by
  obtain ⟨hstatus, -, -⟩ := h.effect
  have hprinted := (h.prints_iff _).trans (verdict_cases jobTime _).1
  rw [hstatus, statusOf_eq_iff]
  refine Iff.trans ?_ (and_congr_left' hprinted).symm
  constructor
  · rintro ⟨retc, first, dirty, hresult⟩
    obtain ⟨job, host, hjob, hexchange, hfinds⟩ := h.found hA hresult
    have hverify : inv.verify = true := by
      cases hfinds with
      | mismatch hverify => exact hverify
    exact ⟨⟨_, hresult⟩, hverify, job, retc, host, first, dirty, hjob, hexchange, hfinds⟩
  · rintro ⟨⟨⟨retc, v⟩, hresult⟩, -, job, retc', host, first, dirty, hjob, hexchange, hfinds⟩
    obtain ⟨job', host', hjob', hexchange', hfinds'⟩ := h.found hA hresult
    cases hjob.symm.trans hjob'
    cases hexchange.symm.trans hexchange'
    cases hfinds.unique hfinds'
    exact ⟨retc, first, dirty, hresult⟩

/-! ### Lower-case letters -/

/-- **After a job in software a comparison finds a mismatch exactly if it is asked for, both buffers
are staged, and the data has a lower-case letter.** -/
theorem Stages.mismatch_iff (hA : A.Sound) (h : Stages A jobTime args env files inv c m)
    (hsoftware : SelectsSoftware env) {job : Job} {retc : UInt32} {host : HostMemory}
    {v : Verification} (hjob : jobOf c.params = .ok job)
    (hexchange : exchange (platform A jobTime) (optionsOf inv env) job m.memory m.devices =
      .ok (retc, host)) (hfinds : Finds (optionsOf inv env) c.input c.output host v) :
    (∃ first dirty, v = .mismatch first dirty) ↔
      inv.verify = true ∧ c.input.isSome = true ∧ c.output.isSome = true ∧
        ∃ x ∈ (optionsOf inv env).data files, isLower x = true := by
  have hready := h.ready hA
  obtain ⟨card, hexchange'⟩ := exchange_software hsoftware A jobTime inv job m.memory m.devices
  cases hexchange.symm.trans hexchange'
  -- What is compared is the data and its upper case.
  have hfound : ∀ {b b' : HostBuffer} {given found : Bytes}, inv.verify = true →
      c.input = some b → c.output = some b' →
      (Machine.applyWrites (Software.perform job m.memory card).writes m.memory).contents? b =
        some given →
      (Machine.applyWrites (Software.perform job m.memory card).writes m.memory).contents? b' =
        some found →
      (found.toList = given.toList ++ List.replicate 1024 0 ↔
        ∀ x ∈ (optionsOf inv env).data files, isLower x = false) := by
    intro b b' given found hverify hb hb' hgiven hfound
    obtain ⟨-, ⟨d, hd, hdata⟩, d', hd', hresult⟩ :=
      Software.perform_staged hready hb hb' hjob card
    cases hgiven.symm.trans hd
    cases hfound.symm.trans hd'
    have hguard : (optionsOf inv env).guardLength = 1024 := if_pos hverify
    rw [hresult, hdata, hguard, List.append_left_inj]
    exact map_upperByte_eq_self_iff _
  cases hfinds with
  | skipped hnot =>
      refine iff_of_false (by simp) ?_
      rintro ⟨hverify, hinput, houtput, -⟩
      rcases hnot with hnot | hnot | hnot
      · cases hverify.symm.trans hnot
      · rw [hnot] at hinput
        cases hinput
      · rw [hnot] at houtput
        cases houtput
  | passed hverify hb hb' hgiven hcompared heq =>
      refine iff_of_false (by simp) ?_
      rintro ⟨-, -, -, x, hx, hlower⟩
      cases hlower.symm.trans ((hfound hverify hb hb' hgiven hcompared).1 heq x hx)
  | mismatch hverify hb hb' hgiven hcompared hne =>
      refine iff_of_true ⟨_, _, rfl⟩ ⟨hverify, hb ▸ rfl, hb' ▸ rfl, ?_⟩
      by_contra hnone
      refine hne ((hfound hverify hb hb' hgiven hcompared).2 fun x hx => ?_)
      exact Bool.eq_false_iff.2 fun hlower => hnone ⟨x, hx, hlower⟩

/-- Data that has a byte and was to be read from a file is that of a regular file. -/
theorem exists_file_of_mem_data {o : Options} {path : Path} {x : UInt8}
    (hinput : o.input = some path) (hx : x ∈ o.data files) :
    ∃ d, files.fileAt? path = some d ∧ x ∈ d.toList := by
  cases hfile : files.fileAt? path with
  | none => simp [Options.data, hinput, hfile] at hx
  | some d => exact ⟨d, rfl, Options.data_of_file hinput hfile ▸ hx⟩

/-- The status of a mismatch comes from a run that is staged. -/
theorem stages_of_mismatch (h : (run A jobTime args env files).status = 65) :
    ∃ inv c m, Stages A jobTime args env files inv c m := by
  cases course A jobTime args env files with
  | unasked _ heffect | answered _ _ heffect | misused _ _ heffect =>
      cases h.symm.trans (congrArg Effect.status heffect)
  | unstaged _ _ hstatus => cases h.symm.trans hstatus
  | @staged inv c m hstages => exact ⟨inv, c, m, hstages⟩

/-- **In software the status is that of a mismatch exactly if a comparison was asked for, both
buffers are staged, every stage succeeds, and the input file has a lower-case letter.** -/
theorem status_software_iff (hA : A.Sound) (jobTime : Nat) (args : List Argument)
    (files : FileTree) (hsoftware : SelectsSoftware env) :
    (run A jobTime args env files).status = 65 ↔
      ∃ inv c m report path d, Stages A jobTime args env files inv c m ∧
        (c.complete (platform A jobTime) m).1 = .ok report ∧ inv.verify = true ∧
        inv.input = some path ∧
        (inv.output.isSome = true ∨
          inv.targetSpace.getD .hostDram = .hostDram ∧ inv.targetAddr = none) ∧
        files.fileAt? path = some d ∧ ∃ x ∈ d.toList, 97 ≤ x ∧ x ≤ 122 := by
  constructor
  · intro hstatus
    obtain ⟨inv, c, m, h⟩ := stages_of_mismatch hstatus
    rw [h.effect.1, statusOf_eq_iff] at hstatus
    obtain ⟨retc, first, dirty, hresult⟩ := hstatus
    obtain ⟨job, host, hjob, hexchange, hfinds⟩ := h.found hA hresult
    obtain ⟨hverify, hin, hout, x, hx, hlower⟩ :=
      (h.mismatch_iff hA hsoftware hjob hexchange hfinds).1 ⟨first, dirty, rfl⟩
    have hstaged := (h.ready hA).staged
    obtain ⟨path, hinput⟩ := Option.isSome_iff_exists.1 (hstaged.input_iff.1 hin)
    obtain ⟨d, hfile, hmem⟩ := exists_file_of_mem_data hinput hx
    exact ⟨inv, c, m, _, path, d, h, hresult, hverify, hinput, hstaged.output_iff.1 hout, hfile,
      x, hmem, (isLower_iff x).1 hlower⟩
  · rintro ⟨inv, c, m, ⟨retc, v⟩, path, d, h, hresult, hverify, hinput, houtput, hfile, x, hx,
      hlower⟩
    obtain ⟨job, host, hjob, hexchange, hfinds⟩ := h.found hA hresult
    have hstaged := (h.ready hA).staged
    have hin : c.input.isSome = true := by
      refine hstaged.input_iff.2 ?_
      show inv.input.isSome = true
      rw [hinput]
      rfl
    have hdata : (optionsOf inv env).data files = d.toList := Options.data_of_file hinput hfile
    have hmem : x ∈ (optionsOf inv env).data files := hdata.symm ▸ hx
    obtain ⟨first, dirty, rfl⟩ := (h.mismatch_iff hA hsoftware hjob hexchange hfinds).2
      ⟨hverify, hin, hstaged.output_iff.2 houtput, x, hmem, (isLower_iff x).2 hlower⟩
    rw [h.effect.1, statusOf_eq_iff]
    exact ⟨retc, first, dirty, hresult⟩

end Program

end Offload
