/-
**A client does as its account does.**

The account of a client tells what it answers next and what comes of it, as long as there is room
for its buffers.  This is shown for one step after the other, and so whatever the client is asked.

Main definitions:

* `exhausted` — an answer that tells that there was no room for a buffer;
* `Account.Follows` — a client does as its account does, and spares what others own.

Main results:

* `Account.load_eq_ok`, `Account.load_eq_error` — what is loaded is what the files say;
* `Account.follows_answer` — **a client answers as its account does**, whatever it is asked.
-/

import Offload.Proofs.Software.Account
import Offload.Proofs.Software.Transfer

set_option relaxedAutoImplicit false
set_option autoImplicit false

namespace Offload

open Client (Answer Phase)
open Machine (Holding Spares)

/-- There was no room for a buffer. -/
def exhausted {α : Type} : Except Error α → Bool
  | .error (.allocating _ .exhausted) => true
  | _ => false

namespace Account

variable {p : Platform Software.Cards} {task : Task} {place : Location} {t : FileTree}
  {s : Account} {c : Client Software.Cards} {m m' : Machine Software.Cards}
  {others : List HostBuffer} {b : HostBuffer}

/-- A client does as its account does, and spares what others own. -/
structure Follows (task : Task) (place : Location) (t : FileTree) (others : List HostBuffer)
    (m : Machine Software.Cards) (r : Except Error Answer × Account)
    (turn : Turn Software.Cards Answer) : Prop where
  answer : turn.1 = r.1
  describes : r.2.Describes task place t turn.2.1 turn.2.2
  spares : Spares place others m turn.2.2

/-! ### Letting go -/

theorem stage_release_ne (s : Account) : s.release.stage ≠ .unconfigured := by
  by_cases hfailed : s.stage = .failed <;> simp [release, hfailed]

theorem describes_teardown (hoptions : c.options = task.options) (hstage : c.stage = s.stage)
    (hsize : c.params.size = s.size) (hretc : c.job.map Job.retc = s.retc)
    (hsees : s.Sees task place t m.files) :
    s.release.Describes task place t (c.teardown m).1 (c.teardown m).2 where
  phase := Client.phase_teardown hoptions m
  stage := by rw [Client.teardown, release, hstage]
  size := hsize
  retc := hretc
  input := rfl
  output := rfl
  session _ hsession := by cases hsession
  sees := hsees.of_stage (Client.files_teardown c m) rfl s.stage_release_ne

theorem follows_teardown (h : s.Describes task place t c m) (hheld : Holding c.buffers others m) :
    Follows task place t others m (.ok .done, s.release) (.ok .done, c.teardown m) where
  answer := rfl
  describes := describes_teardown h.phase.options h.stage h.size h.retc h.sees
  spares := Client.spares_teardown hheld

theorem follows_fail (h : s.Describes task place t c m) (hheld : Holding c.buffers others m')
    (hfiles : m'.files = m.files) (hm : Spares place others m m') (e : Error) :
    Follows task place t others m (s.fail e) (c.fail e m') where
  answer := rfl
  describes := describes_teardown h.phase.options rfl h.size h.retc
    (h.sees.of_stage hfiles rfl fun hfirst => by cases hfirst)
  spares := hm.trans (Client.spares_teardown hheld)

/-! ### Staging -/

/-- A load that fails, and not for want of room, fails as the files say. -/
theorem load_eq_error {path : Path} {e : Error} (hload : Client.loadFile p path m = (.error e, m'))
    (hroom : ∀ size, e ≠ .allocating size .exhausted) : load path m.files = .error e := by
  rw [load]
  cases Client.load_loadFile hload with
  | unsized hsize hm => rw [hsize]
  | oversized hsize hlen hm =>
      rw [hsize]
      exact if_pos hlen
  | @refused len fault m' hsize hlen halloc hm =>
      simp only [hsize, if_neg (Nat.not_le.2 hlen)]
      rcases HostMemory.fault_of_allocate halloc with ⟨hzero, rfl⟩ | hlarge | rfl
      · rw [if_pos hzero]
      · have hmax : len ≤ HostMemory.maxSize :=
          Nat.le_trans (Nat.le_of_lt hlen) (by decide)
        exact absurd hlarge (Nat.not_lt.2 hmax)
      · exact absurd rfl (hroom len)
  | @unread b memory cause m' hsize hlen halloc hread hm =>
      have hpos : b.size ≠ 0 := (HostMemory.allocate_eq_ok_iff.1 halloc).1
      simp only [hsize, if_neg (Nat.not_le.2 hlen), if_neg hpos, hread]

/-- A load that succeeds leaves in the buffer what the files say. -/
theorem load_eq_ok {path : Path} (hload : Client.loadFile p path m = (.ok b, m')) :
    ∃ d, load path m.files = .ok d ∧ m'.memory.contents? b = some d := by
  rw [load]
  cases Client.load_loadFile hload with
  | @loaded b memory d m' hsize hlen halloc hread hm =>
      have hpos : b.size ≠ 0 := (HostMemory.allocate_eq_ok_iff.1 halloc).1
      refine ⟨(Bytes.zeros b.size).overwrite 0 d, ?_, ?_⟩
      · simp only [hsize, if_neg (Nat.not_le.2 hlen), if_neg hpos, hread]
      · rw [hm.memory, Machine.fill, HostMemory.contents?_modify_self]
        exact congrArg (Option.map _) (HostMemory.contents?_allocate_self halloc)

theorem follows_stageInput (hA : p.allocator.Sound) (h : s.Describes task place t c m)
    (hheld : Holding c.buffers others m) (hstage : c.stage = .unconfigured)
    (hroom : ¬exhausted (c.answerStep p m .stageInput).1) :
    Follows task place t others m (s.advance task place t .stageInput)
      (c.answerStep p m .stageInput) := by
  have hsame : load task.source m.files = load task.source t :=
    h.sees.load_eq (h.stage ▸ hstage)
  have hsource : c.options.input = some task.source := by
    rw [h.phase.options, task.input_eq]
  have hheld' := (Client.preserved_holding hA task.options others).answerStep
    ⟨h.phase, hheld⟩ .stageInput
  rcases Client.moves_stageInput (p := p) (m := m) hstage with
    ⟨e, m', hset, heq⟩ | ⟨a, c', m', hadv, heq⟩ <;> rw [heq] at hroom hheld' ⊢
  · cases hset with
    | input hinput hload =>
        cases hsource.symm.trans hinput
        rw [advance, ← hsame, load_eq_error hload fun size he => hroom (he ▸ rfl)]
        exact follows_fail h (Client.holding_of_loadFile_error hA hheld hload)
          (Client.files_of_loadFile hload) (Client.spares_loadFile_error hA hheld hload) e
  · cases hadv with
    | noInput hinput => cases hsource.symm.trans hinput
    | @input path b m' hinput hload =>
        cases hsource.symm.trans hinput
        obtain ⟨d, hd, hcontents⟩ := load_eq_ok hload
        obtain ⟨hphase', hheld'⟩ := hheld'
        have hdsize : d.size = b.size :=
          hheld'.sound.size_of_contents? (hheld'.mem_live (Client.mem_buffers_of_input rfl))
            hcontents
        obtain rfl := h.phase.unconfigured hstage
        rw [advance, ← hsame, hd]
        refine ⟨rfl, ?_, Client.spares_loadFile hA hheld hload⟩
        exact
          { phase := hphase'
            stage := rfl
            size := hdsize.symm
            retc := h.retc
            input := congrArg some hcontents
            output := h.output
            session := h.session
            sees := h.sees.of_stage (Client.files_of_loadFile hload) rfl
              fun hfirst => by cases hfirst }

theorem follows_stageOutput (hA : p.allocator.Sound) (h : s.Describes task place t c m)
    (hheld : Holding c.buffers others m) (hstage : c.stage = .inputStaged)
    (hroom : ¬exhausted (c.answerStep p m .stageOutput).1) :
    Follows task place t others m (s.advance task place t .stageOutput)
      (c.answerStep p m .stageOutput) := by
  obtain ⟨b, hb, hsize, hlt⟩ := h.exists_input hstage
  have hblive : b ∈ m.memory.live := hheld.mem_live (Client.mem_buffers_of_input hb)
  have hpos : 0 < b.size := (hheld.sound.placed b hblive).nonempty
  have hguard := c.options.guardLength_le
  have hheld' := (Client.preserved_holding hA task.options others).answerStep
    ⟨h.phase, hheld⟩ .stageOutput
  rcases Client.moves_stageOutput (p := p) (m := m) hstage with
    ⟨e, m', hset, heq⟩ | ⟨a, c', m', hadv, heq⟩ <;> rw [heq] at hroom hheld' ⊢
  · cases hset with
    | oversized hover => omega
    | output hfits hstages hbuffer =>
        rcases Client.outputBuffer_error hbuffer with hlarge | ⟨fault, hfault, rfl⟩
        · simp only [UInt32.size, UInt64.size] at *
          omega
        · rcases HostMemory.fault_of_allocate hfault with ⟨hzero, -⟩ | hlarge | rfl
          · omega
          · simp only [UInt32.size, HostMemory.maxSize] at *
            omega
          · exact absurd rfl hroom
  · have hstages : c.options.stagesOutput = true := by
      simp [Options.stagesOutput, h.phase.options, task.output_eq]
    cases hadv with
    | noOutput hfits hnot => cases hstages.symm.trans hnot
    | @output b' m' hfits _ hbuffer =>
        obtain ⟨memory, hgrant, hnoted⟩ :=
          Machine.allocate_ok_spec (Client.outputBuffer_ok hbuffer).2
        have hkept : ∀ b ∈ m.memory.live, m'.memory.contents? b = m.memory.contents? b :=
          fun b hb => hnoted.memory ▸ Machine.contents?_of_allocate hA hheld.sound hgrant hb
        have hzeros : m'.memory.contents? b' =
            some (.zeros (s.size + task.options.guardLength)) := by
          rw [hnoted.memory, ← h.size, ← h.phase.options]
          exact HostMemory.contents?_allocate_self hgrant
        refine ⟨rfl, ?_, Client.spares_outputBuffer hA hheld hbuffer⟩
        exact
          { phase := hheld'.1
            stage := rfl
            size := h.size
            retc := h.retc
            input := map_contents h.input fun b hb =>
              hkept b (hheld.mem_live (Client.mem_buffers_of_input hb))
            output := congrArg some hzeros
            session := h.session
            sees := h.sees.of_stage hnoted.files rfl fun hfirst => by cases hfirst }

/-! ### Session and job -/

theorem follows_acquireSession (hA : p.allocator.Sound) (hp : Software.Registered p)
    (h : s.Describes task place t c m) (hheld : Holding c.buffers others m)
    (hstage : c.stage = .staged) :
    Follows task place t others m (s.advance task place t .acquireSession)
      (c.answerStep p m .acquireSession) := by
  have hheld' := (Client.preserved_holding hA task.options others).answerStep
    ⟨h.phase, hheld⟩ .acquireSession
  obtain ⟨session, m', hacquire, hmemory, hfiles, number, haction, -⟩ :=
    Software.acquire_fresh hp c.options.card c.options.irq m
  have hanswer : c.answerStep p m .acquireSession =
      (.ok .done, { c with stage := .sessionOpen, session := some session }, m') := by
    rw [Client.answerStep, Client.acquireSession, Client.inStage, if_pos (by exact hstage)]
    have hbackend : c.options.backend = Device.software := by
      rw [h.phase.options, task.backend_eq]
    simp only [hbackend, hacquire]
    rfl
  rw [hanswer] at hheld' ⊢
  refine ⟨rfl, ?_, .of_eq hfiles hmemory⟩
  exact
    { phase := hheld'.1
      stage := rfl
      size := h.size
      retc := h.retc
      input := hmemory ▸ h.input
      output := hmemory ▸ h.output
      session := by
        intro session' hsession
        cases hsession
        exact ⟨number, haction⟩
      sees := h.sees.of_stage hfiles rfl fun hfirst => by cases hfirst }

theorem follows_execute (hA : p.allocator.Sound) (h : s.Describes task place t c m)
    (hheld : Holding c.buffers others m) (hstage : c.stage = .sessionOpen) :
    Follows task place t others m (s.advance task place t .execute)
      (c.answerStep p m .execute) := by
  have hheld' := (Client.preserved_holding hA task.options others).answerStep
    ⟨h.phase, hheld⟩ .execute
  obtain ⟨input, output, params, session, hst, -, rfl⟩ := h.phase.sessionOpen hstage
  obtain ⟨b, b', rfl, rfl⟩ := exists_buffers hst
  obtain ⟨number, haction⟩ := h.session session rfl
  obtain ⟨hsize, hin, haddr⟩ := hst.source_of_some rfl
  obtain ⟨hroom, hout, haddr'⟩ := hst.target_of_some rfl
  have hb : b ∈ m.memory.live := hheld.mem_live (Client.mem_buffers_of_input rfl)
  have hb' : b' ∈ m.memory.live := hheld.mem_live (Client.mem_buffers_of_output rfl)
  obtain ⟨d, hd, hcontents⟩ := exists_contents h.input rfl
  obtain ⟨d', hd', hcontents'⟩ := exists_contents h.output rfl
  obtain ⟨len, hlen, hjob⟩ := Client.jobOf_eq_ok hst.size_lt
  rw [hin, haddr, hout, haddr'] at hjob
  obtain ⟨m', hexecute, hfiles, hmemory⟩ :=
    Software.execute_eq (p := p) hstage rfl haction hjob m
  -- The card makes no difference to a job between two buffers.
  have hfits : len.toNat ≤ b.size := by omega
  have hfits' : len.toNat ≤ b'.size := by omega
  obtain ⟨hretc, hwrites⟩ := Software.perform_buffers hheld.sound hb hb' hcontents hfits hfits'
    (m.devices.memory (Software.cardOf m.devices number))
  replace hmemory := hmemory.trans hwrites
  have hanswer := congrArg (Turn.map fun _ => Answer.done) hexecute
  rw [Client.answerStep, hanswer] at hheld' ⊢
  have hne : b.addr ≠ b'.addr := Client.addr_ne_of_holding hheld rfl rfl
  have hinput : m'.memory.contents? b = m.memory.contents? b := by
    rw [hmemory, HostMemory.contents?_modify_of_ne _ hne]
  have houtput : m'.memory.contents? b' =
      some (d'.overwrite 0 (d.slice 0 len.toNat).upper) := by
    rw [hmemory, HostMemory.contents?_modify_self, hcontents']
    rfl
  have hspares : Spares place others m m' := by
    refine .of_files_eq hfiles fun b'' hb'' => ?_
    rw [hmemory, HostMemory.contents?_modify_of_ne _
      (hheld.addr_ne (Client.mem_buffers_of_output rfl) hb'')]
  refine ⟨rfl, ?_, hspares⟩
  exact
    { phase := hheld'.1
      stage := rfl
      size := h.size
      retc := congrArg some hretc
      input := map_contents h.input fun _ hx => Option.some_inj.1 hx ▸ hinput
      output := by
        simp only [advance, hd, hd', ← h.size, ← hlen, Option.getD_some, Option.map_some]
        exact congrArg some houtput
      session := h.session
      sees := h.sees.of_stage hfiles rfl fun hfirst => by cases hfirst }

/-! ### Looking at the result -/

theorem follows_writeOutput (htarget : FileTree.Target task.target place t)
    (h : s.Describes task place t c m) (hheld : Holding c.buffers others m)
    (hstage : c.stage = .executed) :
    Follows task place t others m (s.advance task place t .writeOutput)
      (c.answerStep p m .writeOutput) := by
  have houtput : c.options.output = some task.target := by
    rw [h.phase.options, task.output_eq]
  obtain ⟨-, b', -, hb', -, -⟩ := h.exists_staged hstage
  obtain ⟨d', hd', hcontents'⟩ := exists_contents h.output hb'
  have hdata : (m.contents b').take c.params.size = (s.output.getD .empty).take s.size := by
    rw [Machine.contents, hcontents', hd', h.size]
  have hlate : s.stage ≠ .unconfigured := by
    rw [← h.stage, hstage]
    decide
  rw [Client.answerStep, advance]
  rcases Client.writeOutput_cases hstage houtput hb' m with
    ⟨files, m', hwrite, hdone, hm'⟩ | ⟨cause, m', hwrite, hfailed, hm'⟩ <;>
    rw [hdata] at hwrite
  · obtain ⟨e, hfilled, hput, hsees⟩ := h.sees.write_ok htarget hlate hwrite
    have hfiles : m'.files = m.files.put place e := hm'.files.trans hput
    have hmemory : m'.memory = m.memory := hm'.memory
    rw [hdone]
    simp only [hfilled]
    refine ⟨rfl, ?_, ?_⟩
    · exact
        { h with
          input := hmemory ▸ h.input
          output := hmemory ▸ h.output
          sees := hm'.files ▸ hsees }
    · exact
        { workDir := hfiles ▸ rfl
          access := hfiles ▸ rfl
          entry := fun l hl => hfiles ▸ FileTree.entryAt?_put_of_ne hl e m.files
          contents := fun _ _ => hmemory ▸ rfl }
  · have hfilled := h.sees.write_error htarget hwrite
    rw [hfailed, hdata]
    simp only [hfilled]
    exact follows_fail h (hheld.of_memory_eq hm'.memory) hm'.files hm'.spares _

theorem follows_checkReturnCode (h : s.Describes task place t c m)
    (hheld : Holding c.buffers others m) (hstage : c.stage = .executed) :
    Follows task place t others m (s.advance task place t .checkReturnCode)
      (c.answerStep p m .checkReturnCode) := by
  rcases Client.moves_checkReturnCode (p := p) (m := m) hstage with
    ⟨e, m', hset, heq⟩ | ⟨a, c', m', hadv, heq⟩ <;> rw [heq]
  · cases hset with
    | noJob hjob =>
        have hretc : s.retc = none := by
          rw [← h.retc, hjob]
          rfl
        rw [advance, hretc]
        exact follows_fail h hheld rfl (.of_eq rfl rfl) _
    | @returnCode job hjob hne =>
        have hretc : s.retc = some job.retc := by
          rw [← h.retc, hjob]
          rfl
        rw [advance, hretc, if_neg fun heq => hne (Option.some_inj.1 heq)]
        exact follows_fail h hheld rfl (.of_eq rfl rfl) _
  · cases hadv with
    | @returnCode job hjob hsuccess =>
        have hretc : s.retc = some Job.success := by
          rw [← h.retc, hjob, Option.map_some, hsuccess]
        rw [advance, if_pos hretc, hsuccess]
        exact ⟨rfl, h, .of_eq rfl rfl⟩

/-- A client that has come to another stage, with nothing but log records on the machine. -/
theorem Describes.of_noted {stage : Stage} (h : s.Describes task place t c m)
    (hphase : Phase task.options { c with stage }) (hm : Machine.Noted m m')
    (hstage : stage ≠ .unconfigured) :
    ({ s with stage }).Describes task place t { c with stage } m' :=
  { h with
    phase := hphase
    stage := rfl
    input := hm.memory ▸ h.input
    output := hm.memory ▸ h.output
    sees := h.sees.of_stage hm.files rfl hstage }

theorem follows_verify (hA : p.allocator.Sound) (h : s.Describes task place t c m)
    (hheld : Holding c.buffers others m) (hstage : c.stage = .executed) :
    Follows task place t others m (s.advance task place t .verify) (c.answerStep p m .verify) := by
  obtain ⟨hphase, -⟩ := (Client.preserved_holding hA task.options others).answerStep
    ⟨h.phase, hheld⟩ .verify
  obtain ⟨b, b', hb, hb', hin, hout⟩ := h.exists_staged hstage
  rcases Client.moves_verify (p := p) (m := m) hstage with
    ⟨e, m', hset, heq⟩ | ⟨a, c', m', hadv, heq⟩ <;> rw [heq] at hphase ⊢
  · cases hset
  · cases hadv with
    | compared hverify hspaces hinput houtput =>
        cases hb.symm.trans hinput
        cases hb'.symm.trans houtput
        obtain ⟨d, hd, hcontents⟩ := exists_contents h.input hb
        obtain ⟨d', hd', hcontents'⟩ := exists_contents h.output hb'
        have hgiven : m.contents b = s.input.getD .empty := by
          rw [Machine.contents, hcontents, hd]
        have hfound : m.contents b' = s.output.getD .empty := by
          rw [Machine.contents, hcontents', hd']
        have hverify' : task.options.verify = true := h.phase.options ▸ hverify
        rw [hgiven, hfound] at hphase ⊢
        rw [advance, if_pos hverify']
        generalize hm' : (if (Verification.compare _ _).failed = true then _ else _) = m'
        have hnoted := Machine.noted_noteAll
          (Verification.report (s.input.getD .empty).toList (s.output.getD .empty).toList) m
        have hnoted' : Machine.Noted m m' := by
          rw [← hm']
          split
          · exact hnoted.trans (Machine.noted_note _ _ _ _)
          · exact hnoted
        exact ⟨rfl, h.of_noted hphase hnoted' (by decide), hnoted'.spares⟩
    | skipped hwhy hm =>
        have hverify : task.options.verify = false := by
          rw [← h.phase.options]
          rcases hwhy with hverify | hnone | hnone | hspace | hspace
          · exact hverify
          · cases hb.symm.trans hnone
          · cases hb'.symm.trans hnone
          · exact absurd hin hspace
          · exact absurd hout hspace
        have hnoted : Machine.Noted m m' := by
          rcases hm with rfl | rfl
          · exact .refl _
          · exact Machine.noted_note _ _ _ _
        rw [advance, if_neg (by rw [hverify]; decide)]
        exact ⟨rfl, h.of_noted hphase hnoted (by decide), hnoted.spares⟩

/-! ### Whatever is asked -/

/-- **A client answers as its account does**, whatever it is asked, and spares what others own, as
long as there is room for its buffers. -/
theorem follows_answer (hA : p.allocator.Sound) (hp : Software.Registered p)
    (htarget : FileTree.Target task.target place t) (h : s.Describes task place t c m)
    (hheld : Holding c.buffers others m) (act : Task.Act)
    (hroom : ¬exhausted (c.answer p m act.call).1) :
    Follows task place t others m (s.answer task place t act) (c.answer p m act.call) := by
  cases act with
  | teardown => exact follows_teardown h hheld
  | step step =>
      rw [answer]
      by_cases hstage : s.stage = step.requires
      · rw [if_pos hstage]
        have hallowed : c.stage = step.requires := h.stage.trans hstage
        cases step with
        | stageInput => exact follows_stageInput hA h hheld hallowed hroom
        | stageOutput => exact follows_stageOutput hA h hheld hallowed hroom
        | acquireSession => exact follows_acquireSession hA hp h hheld hallowed
        | execute => exact follows_execute hA h hheld hallowed
        | writeOutput => exact follows_writeOutput (p := p) htarget h hheld hallowed
        | checkReturnCode => exact follows_checkReturnCode (p := p) h hheld hallowed
        | verify => exact follows_verify hA h hheld hallowed
      · rw [if_neg hstage]
        have hrefused := Client.answer_of_ne_requires (p := p) (m := m) (h.stage ▸ hstage)
        rw [h.stage] at hrefused
        rw [Task.Act.call, hrefused]
        exact ⟨rfl, h, .of_eq rfl rfl⟩

end Account

end Offload
