/-
**What the program writes.**

The only file that a run of the program can change is the one that its output path leads to, and it
is changed only by a run in software whose client is staged.  If such a run can write the file, it
does, whatever becomes of the job: the file gets the first bytes of the output buffer, as many as
are to be transferred, and these are zeros still if the job failed.  Without software nothing is
written at all.

Main results:

* `Program.Stages.zeros_of_failed` — after a job that failed the output buffer holds zeros;
* `Program.Stages.written` — **what a run in software that can write its output file writes**;
* `Program.files_cases` — **what a run of the program puts into the files**, if anything;
* `Program.run_frame` — all that a run of the program does to the files.
-/

import Offload.Proofs.Program.Staged

set_option relaxedAutoImplicit false
set_option autoImplicit false

namespace Offload

namespace Program

open Client (Stored exchange jobOf)
open FileTree (WritableAt)
open Software (Cards)

variable {A : Allocator} {jobTime : Nat} {args : List Argument} {env : Environment}
  {files : FileTree} {inv : Invocation} {c : Client Cards} {m : Machine Cards}

/-- After a job that failed, what is written of the output buffer is zeros. -/
theorem Stages.zeros_of_failed (hA : A.Sound) (h : Stages A jobTime args env files inv c m)
    (hsoftware : SelectsSoftware env) {job : Job} {host : HostMemory} {b : HostBuffer}
    {found : Bytes}
    (hexchange : exchange (platform A jobTime) (optionsOf inv env) job m.memory m.devices =
      .ok (0x104, host)) (hb : c.output = some b) (hfound : host.contents? b = some found) :
    (found.take c.params.size).toList = List.replicate c.params.size 0 := by
  have hhost : host = m.memory := (exchange_retc hsoftware hexchange).2 rfl
  have hready := h.ready hA
  obtain ⟨d, hd, hzeros⟩ := hready.room b hb
  rw [hhost] at hfound
  cases hd.symm.trans hfound
  rw [Bytes.toList_take, hzeros, List.take_replicate, ← hready.size,
    Nat.min_eq_left (Nat.le_add_right _ _)]

/-- **What a run in software writes**, if it can write the file that its output path leads to: the
bytes of the output buffer that are to be transferred, as the job leaves them. -/
theorem Stages.written (hA : A.Sound) (h : Stages A jobTime args env files inv c m)
    (hsoftware : SelectsSoftware env) {path : Path} {loc : Location}
    (houtput : inv.output = some path) (hwritable : WritableAt path loc files) :
    ∃ job retc host b found, jobOf c.params = .ok job ∧
      exchange (platform A jobTime) (optionsOf inv env) job m.memory m.devices = .ok (retc, host) ∧
      c.output = some b ∧ host.contents? b = some found ∧ c.params.size ≤ found.size ∧
      (run A jobTime args env files).files =
        files.put loc (.file (found.take c.params.size)) := by
  obtain ⟨job, retc, host, hjob, hexchange, ⟨e, hstored, -⟩ | ⟨hstored, -⟩⟩ :=
    h.of_software hA hsoftware
  · obtain ⟨b, found, -, -, -, hwrite⟩ := hstored.of_some houtput
    rw [hwritable.write] at hwrite
    cases hwrite
  · obtain ⟨b, found, hb, hfound, hsize, hwrite⟩ := hstored.of_some houtput
    rw [hwritable.write] at hwrite
    exact ⟨job, retc, host, b, found, hjob, hexchange, hb, hfound, hsize, Except.ok.inj hwrite⟩

/-- A run in software leaves the files as they are, or puts one regular file where its output path
leads. -/
theorem Stages.files_cases (hA : A.Sound) (h : Stages A jobTime args env files inv c m)
    (hsoftware : SelectsSoftware env) :
    (run A jobTime args env files).files = files ∨
      ∃ path loc d, inv.output = some path ∧ WritableAt path loc files ∧ loc ≠ [] ∧
        (run A jobTime args env files).files = files.put loc (.file d) := by
  obtain ⟨job, retc, host, -, -, ⟨e, -, -, hsame⟩ | ⟨hstored, -⟩⟩ := h.of_software hA hsoftware
  · exact Or.inl hsame
  · cases houtput : inv.output with
    | none => exact Or.inl (Except.ok.inj (hstored.of_none houtput))
    | some path =>
        obtain ⟨b, found, -, -, -, hwrite⟩ := hstored.of_some houtput
        cases hw : files.write path (found.take c.params.size) with
        | error cause =>
            rw [hw] at hwrite
            cases hwrite
        | ok after =>
            rw [hw] at hwrite
            cases hwrite
            rcases FileTree.write_ok_cases hw with ⟨hsame, -⟩ | ⟨loc, hwritable, hnil, hput⟩
            · exact Or.inl hsame
            · exact Or.inr ⟨path, loc, _, rfl, hwritable, hnil, hput⟩

/-- **A run of the program leaves the files as they are, or puts one regular file where its output
path leads**, and the second only in software and with a client that is staged. -/
theorem files_cases (hA : A.Sound) (jobTime : Nat) (args : List Argument) (env : Environment)
    (files : FileTree) :
    (run A jobTime args env files).files = files ∨
      ∃ inv c m path loc d, Stages A jobTime args env files inv c m ∧ SelectsSoftware env ∧
        inv.output = some path ∧ WritableAt path loc files ∧ loc ≠ [] ∧
        (run A jobTime args env files).files = files.put loc (.file d) := by
  cases course A jobTime args env files with
  | unasked _ heffect | answered _ _ heffect | misused _ _ heffect =>
      exact Or.inl (congrArg Effect.files heffect)
  | unstaged _ _ _ _ hfiles => exact Or.inl hfiles
  | @staged inv c m h =>
      by_cases hsoftware : SelectsSoftware env
      · exact (h.files_cases hA hsoftware).imp_right fun ⟨path, loc, d, houtput, hwritable, hput⟩ =>
          ⟨inv, c, m, path, loc, d, h, hsoftware, houtput, hwritable, hput⟩
      · exact Or.inl (h.of_hardware hA hsoftware).1

/-- Without software the exit status is 1, unless a question is answered. -/
theorem status_hardware (hA : A.Sound) (jobTime : Nat) (args : List Argument)
    (files : FileTree) (hhardware : ¬SelectsSoftware env) :
    (run A jobTime args env files).status = 1 ∨
      (run A jobTime args env files).status = 0 ∧
        ∃ i, CommandLine.parse args = .error (.inquiry i) := by
  cases course A jobTime args env files with
  | unasked _ heffect | misused _ _ heffect => exact Or.inl (congrArg Effect.status heffect)
  | @answered i _ hparse heffect => exact Or.inr ⟨congrArg Effect.status heffect, i, hparse⟩
  | unstaged _ _ hstatus => exact Or.inl hstatus
  | staged h =>
      obtain ⟨-, device, reason, hresult⟩ := h.of_hardware hA hhardware
      obtain ⟨hstatus, -⟩ := h.effect
      exact Or.inl (hstatus.trans (congrArg statusOf hresult))

/-- **All that a run of the program does to the files**, whatever its arguments, the environment and
the files are.  Where anything changes, a regular file was put: the arguments ask for a run, its
client was staged, software was selected, and the output path leads to a regular file there or to a
free place for one.  And if all that is so, the file is always written: it holds the first bytes of
the output buffer, as many as are to be transferred, which are zeros if the job reports a failure.
Without software nothing changes, and the exit status is that of a failure, unless help or version
was asked for. -/
theorem run_frame (hA : A.Sound) (jobTime : Nat) (args : List Argument) (env : Environment)
    (files : FileTree) :
    let effect := run A jobTime args env files
    (effect.files.workDir = files.workDir ∧
      ∀ loc, effect.files.entryAt? loc ≠ files.entryAt? loc →
        ∃ inv c m path d, Stages A jobTime args env files inv c m ∧ SelectsSoftware env ∧
          inv.output = some path ∧ WritableAt path loc files ∧
          effect.files.entryAt? loc = some (.file d)) ∧
    (∀ inv c m path loc, Stages A jobTime args env files inv c m → SelectsSoftware env →
      inv.output = some path → WritableAt path loc files →
        ∃ job retc host b found, jobOf c.params = .ok job ∧
          exchange (platform A jobTime) (optionsOf inv env) job m.memory m.devices =
            .ok (retc, host) ∧
          c.output = some b ∧ host.contents? b = some found ∧
          effect.files = files.put loc (.file (found.take c.params.size)) ∧
          (found.take c.params.size).size = c.params.size ∧
          (retc = 0x102 ∨ retc = 0x104) ∧
          (retc = 0x104 →
            (found.take c.params.size).toList = List.replicate c.params.size 0)) ∧
    (¬SelectsSoftware env →
      effect.files = files ∧ effect.status ≠ 65 ∧
        (effect.status = 0 → ∃ i, CommandLine.parse args = .error (.inquiry i))) := by
  intro effect
  refine ⟨⟨?_, ?_⟩, ?_, ?_⟩
  · rcases files_cases hA jobTime args env files with
      hsame | ⟨inv, c, m, path, loc, d, -, -, -, -, -, hput⟩
    · exact congrArg FileTree.workDir hsame
    · exact (congrArg FileTree.workDir hput).trans (FileTree.workDir_put _ _ _)
  · intro place hplace
    rcases files_cases hA jobTime args env files with
      hsame | ⟨inv, c, m, path, loc, d, h, hsoftware, houtput, hwritable, hnil, hput⟩
    · exact absurd (congrArg (FileTree.entryAt? place) hsame) hplace
    · have hchanged : effect.files.entryAt? place = (files.put loc (.file d)).entryAt? place :=
        congrArg (FileTree.entryAt? place) hput
      by_cases hloc : place = loc
      · subst hloc
        exact ⟨inv, c, m, path, d, h, hsoftware, houtput, hwritable,
          hchanged.trans (FileTree.entryAt?_put_self hnil _ _)⟩
      · exact absurd (hchanged.trans (FileTree.entryAt?_put_of_ne hloc _ _)) hplace
  · intro inv c m path loc h hsoftware houtput hwritable
    obtain ⟨job, retc, host, b, found, hjob, hexchange, hb, hfound, hsize, hput⟩ :=
      h.written hA hsoftware houtput hwritable
    refine ⟨job, retc, host, b, found, hjob, hexchange, hb, hfound, hput, ?_,
      (exchange_retc hsoftware hexchange).1, ?_⟩
    · rw [Bytes.size_take, Nat.min_eq_left hsize]
    · rintro rfl
      exact h.zeros_of_failed hA hsoftware hexchange hb hfound
  · intro hhardware
    have hfiles : effect.files = files := by
      rcases files_cases hA jobTime args env files with
        hsame | ⟨inv, c, m, path, loc, d, -, hsoftware, -⟩
      · exact hsame
      · exact absurd hsoftware hhardware
    refine ⟨hfiles, ?_, ?_⟩
    · rcases status_hardware hA jobTime args files hhardware with hone | ⟨hzero, -⟩
      · exact ne_of_eq_of_ne hone (by decide)
      · exact ne_of_eq_of_ne hzero (by decide)
    · intro hzero
      rcases status_hardware hA jobTime args files hhardware with hone | ⟨-, hinquiry⟩
      · cases hone.symm.trans hzero
      · exact hinquiry

/-- A job in software whose source is no memory of the program: the output file is made all the
same, and holds zeros. -/
theorem run_frame_unstaged :
    let args : List Argument := [[45, 115], [50], [45, 111], [98]]
    let inv := { Invocation.none with size := some 2, output := some ⟨[98]⟩ }
    let env : Environment := ⟨some [67, 80, 85], none, none⟩
    let files : FileTree := { entries := [], workDir := [] }
    Allocator.slots.Sound ∧ SelectsSoftware env ∧ WritableAt ⟨[98]⟩ [[98]] files ∧
      ∃ c m, Stages .slots 0 args env files inv c m ∧ ∃ d,
        (run .slots 0 args env files).files = files.put [[98]] (.file d) ∧
          d.size = c.params.size ∧ d.toList = [0, 0] := by
  intro args inv env files
  let s := prepared (platform .slots 0) (optionsOf inv env) (begin inv env files)
  have hsoftware : SelectsSoftware env := ⟨"CPU", by decide +kernel, by decide +kernel⟩
  have hwritable : WritableAt ⟨[98]⟩ [[98]] files := ⟨rfl, Or.inl rfl, rfl⟩
  have hasks : Asks args inv := ⟨by simp [args], by decide +kernel⟩
  have hstage : s.1.stage = .staged := by decide +kernel
  have h : Stages .slots 0 args env files inv s.1 s.2 := ⟨hasks, (Prod.eta s).symm, hstage⟩
  obtain ⟨job, retc, host, b, found, hjob, hexchange, -, -, hput, hsize, -, hzeros⟩ :=
    (run_frame Allocator.sound_slots 0 args env files).2.1 inv s.1 s.2 ⟨[98]⟩ [[98]] h hsoftware
      rfl hwritable
  have hfailed : retc = 0x104 := by
    have hcode : ((jobOf s.1.params).toOption.bind fun job =>
        (exchange (platform .slots 0) (optionsOf inv env) job s.2.memory
          s.2.devices).toOption.map Prod.fst) = some 0x104 := by decide +kernel
    rw [hjob] at hcode
    simp only [Except.toOption, Option.bind_some, hexchange] at hcode
    exact Option.some_inj.1 hcode
  refine ⟨Allocator.sound_slots, hsoftware, hwritable, s.1, s.2, h, _, hput, hsize, ?_⟩
  rw [hzeros hfailed]
  decide +kernel

end Program

end Offload
