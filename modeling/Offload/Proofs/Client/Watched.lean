/-
**Watching what backends are given.**

A backend is watched by one that does the same and keeps a list of the jobs that it is given, each
with the host memory as the backend finds it.  A client cannot tell the two apart: with watched
backends every step comes to the same, and the list grows when a job is executed and at no other
time.

Main definitions:

* `Submission` — a job as a backend is given it;
* `Backend.watched`, `Platform.watched` — backends that keep a list of what they are given;
* `Machine.watched`, `Client.watched`, `Turn.watched` — machine, client and turn with such backends.

Main results:

* `Client.execute_watched` — what executing submits;
* `Client.answerStep_watched`, `Client.finish_watched` — the other steps submit nothing, and all
  that follows staging submits what executing does;
* `Client.answer_watched` — **watching changes nothing, and a call submits at most the one job that
  the parameters describe**.
-/

import Offload.Client.Call
import Offload.Proofs.Session

set_option relaxedAutoImplicit false
set_option autoImplicit false

namespace Offload

variable {σ α β : Type}

/-- A job as a backend is given it: with the time that it may take, and with the host memory as the
backend finds it. -/
structure Submission where
  job : Job
  timeout : Nat
  host : HostMemory

/-! ### The same, but watched -/

/-- The backend that does the same and keeps a list of what it is given. -/
def Backend.watched (b : Backend σ) : Backend (σ × List Submission) :=
  { b.within Prod.fst fun s t => (s, t.2) with
    execute := fun action job timeout host t =>
      let e := b.execute action job timeout host t.1
      ⟨e.result, e.retc, e.writes, (e.state, t.2 ++ [⟨job, timeout, host⟩]), e.log⟩ }

/-- The platform with every backend watched. -/
def Platform.watched (p : Platform σ) : Platform (σ × List Submission) :=
  ⟨p.allocator, p.backends.map (·.map Backend.watched), p.jobTime⟩

/-- The machine, with what was submitted so far beside the state of the backends. -/
def Machine.watched (m : Machine σ) (told : List Submission) : Machine (σ × List Submission) :=
  ⟨m.memory, m.files, (m.devices, told), m.log, m.events⟩

/-- The card, open on the watched backend. -/
def Card.watched (card : Card σ) : Card (σ × List Submission) :=
  ⟨card.backend.watched, card.device, card.number⟩

/-- The action, attached by the watched backend. -/
def Action.watched (action : Action σ) : Action (σ × List Submission) :=
  ⟨action.backend.watched, action.number⟩

/-- The session on the watched backend. -/
def Session.watched (s : Session σ) : Session (σ × List Submission) :=
  ⟨s.action.map Action.watched, s.card.map Card.watched⟩

/-- The client with its session on the watched backend. -/
def Client.watched (c : Client σ) : Client (σ × List Submission) :=
  ⟨c.options, c.stage, c.params, c.input, c.output, c.session.map Session.watched, c.job⟩

/-- The turn with a watched client on a watched machine. -/
def Turn.watched (t : Turn σ α) (told : List Submission) : Turn (σ × List Submission) α :=
  (t.1, t.2.1.watched, t.2.2.watched told)

variable {p : Platform σ} {c : Client σ} {m : Machine σ} {told : List Submission}

/-! ### The machine -/

namespace Machine

theorem allocate_watched (p : Platform σ) (size : Nat) (m : Machine σ) (told : List Submission) :
    (m.watched told).allocate p.watched size =
      ((m.allocate p size).1, (m.allocate p size).2.watched told) := by
  simp only [allocate, Platform.watched, watched]
  rcases m.memory.allocate p.allocator size with fault | ⟨buffer, memory⟩ <;> rfl

theorem fileSize_watched (path : Path) (m : Machine σ) (told : List Submission) :
    (m.watched told).fileSize path =
      ((m.fileSize path).1, (m.fileSize path).2.watched told) := by
  simp only [fileSize, watched, note, noteAll]
  rcases m.files.fileSize path with cause | len <;> rfl

theorem readFile_watched (path : Path) (len : Nat) (m : Machine σ) (told : List Submission) :
    (m.watched told).readFile path len =
      ((m.readFile path len).1, (m.readFile path len).2.watched told) := by
  simp only [readFile, watched, note, noteAll]
  rcases m.files.readExact path len with cause | d <;> rfl

theorem writeFile_watched (path : Path) (d : Bytes) (m : Machine σ) (told : List Submission) :
    (m.watched told).writeFile path d =
      ((m.writeFile path d).1, (m.writeFile path d).2.watched told) := by
  simp only [writeFile, watched, note, noteAll]
  rcases m.files.write path d with cause | files <;> rfl

theorem openCard_watched (p : Platform σ) (backend device : String) (m : Machine σ)
    (told : List Submission) :
    (m.watched told).openCard p.watched backend device =
      ((m.openCard p backend device).1.map Card.watched,
        (m.openCard p backend device).2.watched told) := by
  simp only [openCard, Platform.watched]
  cases p.backends with
  | none => rfl
  | some backends =>
      have hname : (fun b : Backend (σ × List Submission) => b.name == backend) ∘ Backend.watched =
          fun b => b.name == backend := rfl
      simp only [Option.map_some, List.find?_map, hname]
      cases backends.find? fun b => b.name == backend with
      | none => rfl
      | some b =>
          simp only [Option.map_some, Backend.watched, Backend.within, Reply.within, watched, note,
            noteAll]
          cases (b.openCard device m.devices).result <;> rfl

theorem attach_watched (card : Card σ) (a : Attachment) (m : Machine σ) (told : List Submission) :
    (m.watched told).attach card.watched a =
      ((m.attach card a).1.map Action.watched, (m.attach card a).2.watched told) := by
  simp only [attach, Card.watched, Backend.watched, Backend.within, Reply.within, watched]
  cases (card.backend.attach card.number card.device a m.devices).result <;> rfl

/-- A job that is executed is added to the list. -/
theorem execute_watched (action : Action σ) (job : Job) (timeout : Nat) (m : Machine σ)
    (told : List Submission) :
    (m.watched told).execute action.watched job timeout =
      ((m.execute action job timeout).1, (m.execute action job timeout).2.1,
        (m.execute action job timeout).2.2.watched (told ++ [⟨job, timeout, m.memory⟩])) := rfl

end Machine

/-! ### Sessions -/

namespace Session

theorem arm_watched (action : Action σ) (irq : Bool) (m : Machine σ) (told : List Submission) :
    arm action.watched irq (m.watched told) = (arm action irq m).watched told := by
  cases irq with
  | false => rfl
  | true =>
      have hassign : (m.watched told).assignInterrupt action.watched interruptSource =
          ((m.assignInterrupt action interruptSource).1,
            (m.assignInterrupt action interruptSource).2.watched told) := rfl
      simp only [arm, if_true, hassign]
      rcases m.assignInterrupt action interruptSource with ⟨e | _, m'⟩ <;> rfl

theorem acquire_watched (p : Platform σ) (backend : String) (card : UInt32) (irq : Bool)
    (m : Machine σ) (told : List Submission) :
    acquire p.watched backend card irq (m.watched told) =
      ((acquire p backend card irq m).1.map Session.watched,
        (acquire p backend card irq m).2.watched told) := by
  simp only [acquire, Machine.openCard_watched]
  rcases m.openCard p backend (Device.ofCard card) with ⟨e | card, m⟩
  · rfl
  · simp only [Except.map, Machine.attach_watched]
    rcases m.attach card (attachment irq) with ⟨e | action, m⟩
    · rfl
    · simp only [arm_watched]
      rfl

theorem release_watched (s : Session σ) (m : Machine σ) (told : List Submission) :
    (s.watched.release (m.watched told)).2 = (s.release m).2.watched told := by
  rcases s with ⟨- | action, - | card⟩ <;> rfl

end Session

/-! ### Steps -/

/-- One step after another is watched if both are. -/
theorem Turn.andThen_watched {t : Turn σ α} {f : α → Client σ → Machine σ → Turn σ β}
    {f' : α → Client (σ × List Submission) → Machine (σ × List Submission) →
      Turn (σ × List Submission) β}
    (hf : ∀ a c m, f' a c.watched (m.watched told) = (f a c m).watched told) :
    (t.watched told).andThen f' = (t.andThen f).watched told := by
  obtain ⟨e | a, c, m⟩ := t
  · rfl
  · exact hf a c m

namespace Client

theorem loadFile_watched (p : Platform σ) (path : Path) (m : Machine σ) (told : List Submission) :
    loadFile p.watched path (m.watched told) =
      ((loadFile p path m).1, (loadFile p path m).2.watched told) := by
  simp only [loadFile, Machine.fileSize_watched]
  rcases m.fileSize path with ⟨e | len, m⟩
  · rfl
  · simp only
    cases descriptorLength len with
    | none => rfl
    | some n =>
        simp only [Machine.allocate_watched]
        rcases m.allocate p len with ⟨e | buffer, m⟩
        · rfl
        · have hnote : ∀ text, (m.watched told).note .info .client text =
              (m.note .info .client text).watched told := fun _ => rfl
          simp only [hnote, Machine.readFile_watched]
          rcases (m.note .info .client ("reading input data " ++ toString len ++
            " bytes from " ++ path.quoted)).readFile path len with ⟨e | d, m⟩ <;> rfl

theorem outputBuffer_watched (p : Platform σ) (size guard : Nat) (m : Machine σ)
    (told : List Submission) :
    outputBuffer p.watched size guard (m.watched told) =
      ((outputBuffer p size guard m).1, (outputBuffer p size guard m).2.watched told) := by
  rw [outputBuffer, outputBuffer]
  split
  · exact Machine.allocate_watched p (size + guard) m told
  · rfl

theorem teardown_watched (c : Client σ) (m : Machine σ) (told : List Submission) :
    c.watched.teardown (m.watched told) =
      ((c.teardown m).1.watched, (c.teardown m).2.watched told) := by
  have hrelease : releaseSession c.watched.session (m.watched told) =
      (releaseSession c.session m).watched told := by
    rcases hs : c.session with - | s <;> simp only [watched, hs, Option.map_none, Option.map_some,
      releaseSession]
    exact Session.release_watched s m told
  have hfree : ∀ (what : String) (buffer : Option HostBuffer) (m : Machine σ),
      freeBuffer what buffer (m.watched told) = (freeBuffer what buffer m).watched told := by
    intro what buffer m
    cases buffer <;> rfl
  have hfreed : freeBuffer "input" c.input (freeBuffer "output" c.output
      (releaseSession c.watched.session (m.watched told))) =
      (freeBuffer "input" c.input (freeBuffer "output" c.output
        (releaseSession c.session m))).watched told := by
    rw [hrelease, hfree, hfree]
  exact Prod.ext rfl hfreed

theorem fail_watched (e : Error) (c : Client σ) (m : Machine σ) (told : List Submission) :
    (c.watched.fail e (m.watched told) : Turn (σ × List Submission) α) =
      (c.fail e m : Turn σ α).watched told := by
  exact congrArg (Prod.mk (Except.error e))
    (teardown_watched { c with stage := .failed } m told)

theorem inStage_watched (step : Step) {act : Turn σ α} {act' : Turn (σ × List Submission) α}
    (h : act' = act.watched told) :
    inStage step c.watched (m.watched told) act' = (inStage step c m act).watched told := by
  rw [inStage, inStage, h]
  by_cases hstage : c.stage = step.requires
  · rw [if_pos (by exact hstage), if_pos hstage]
  · rw [if_neg (by exact hstage), if_neg hstage]
    rfl

theorem stageInput_watched (p : Platform σ) (c : Client σ) (m : Machine σ)
    (told : List Submission) :
    c.watched.stageInput p.watched (m.watched told) = (c.stageInput p m).watched told := by
  refine inStage_watched _ ?_
  have hoptions : c.watched.options = c.options := rfl
  rw [hoptions]
  cases c.options.input with
  | none => rfl
  | some path =>
      simp only [loadFile_watched]
      rcases loadFile p path m with ⟨e | buffer, m⟩
      · exact fail_watched e c m told
      · rfl

theorem stageOutput_watched (p : Platform σ) (c : Client σ) (m : Machine σ)
    (told : List Submission) :
    c.watched.stageOutput p.watched (m.watched told) = (c.stageOutput p m).watched told := by
  refine inStage_watched _ ?_
  have hparams : c.watched.params = c.params := rfl
  have hoptions : c.watched.options = c.options := rfl
  rw [hparams, hoptions]
  cases descriptorLength c.params.size with
  | none => exact fail_watched _ c m told
  | some n =>
      simp only [outputBuffer_watched]
      split
      · rcases outputBuffer p c.params.size c.options.guardLength m with ⟨e | buffer, m⟩
        · exact fail_watched e c m told
        · rfl
      · rfl

theorem acquireSession_watched (p : Platform σ) (c : Client σ) (m : Machine σ)
    (told : List Submission) :
    c.watched.acquireSession p.watched (m.watched told) = (c.acquireSession p m).watched told := by
  refine inStage_watched _ ?_
  have hoptions : c.watched.options = c.options := rfl
  rw [hoptions, Session.acquire_watched]
  rcases Session.acquire p c.options.backend c.options.card c.options.irq m with ⟨e | s, m⟩
  · exact fail_watched e c m told
  · rfl

theorem writeOutput_watched (c : Client σ) (m : Machine σ) (told : List Submission) :
    c.watched.writeOutput (m.watched told) = (c.writeOutput m).watched told := by
  refine inStage_watched _ ?_
  have hoptions : c.watched.options = c.options := rfl
  have houtput : c.watched.output = c.output := rfl
  rw [hoptions, houtput]
  rcases c.options.output with - | path
  · rfl
  · rcases c.output with - | buffer
    · rfl
    · have hnote : ∀ text, (m.watched told).note .info .client text =
          (m.note .info .client text).watched told := fun _ => rfl
      have hparams : c.watched.params = c.params := rfl
      simp only [hnote, hparams]
      generalize m.note .info .client ("writing output data " ++
        Machine.showAddress buffer.addr ++ " " ++ toString c.params.size ++ " bytes to " ++
        path.quoted) = noted
      have hcontents : (noted.watched told).contents buffer = noted.contents buffer := rfl
      simp only [hcontents, Machine.writeFile_watched]
      rcases noted.writeFile path ((noted.contents buffer).take c.params.size) with ⟨e | _, m⟩
      · exact fail_watched e c m told
      · rfl

theorem checkReturnCode_watched (c : Client σ) (m : Machine σ) (told : List Submission) :
    c.watched.checkReturnCode (m.watched told) = (c.checkReturnCode m).watched told := by
  refine inStage_watched _ ?_
  have hjob : c.watched.job = c.job := rfl
  rw [hjob]
  cases c.job with
  | none => exact fail_watched _ c m told
  | some job =>
      simp only
      split
      · rfl
      · exact fail_watched _ c m told

theorem verify_watched (c : Client σ) (m : Machine σ) (told : List Submission) :
    c.watched.verify (m.watched told) = (c.verify m).watched told := by
  refine inStage_watched _ ?_
  have hoptions : c.watched.options = c.options := rfl
  have hparams : c.watched.params = c.params := rfl
  have hinput : c.watched.input = c.input := rfl
  have houtput : c.watched.output = c.output := rfl
  rw [hoptions, hparams, hinput, houtput]
  by_cases hverify : c.options.verify = true
  · rw [if_pos hverify, if_pos hverify]
    cases c.params.spaceIn <;> cases c.params.spaceOut <;> rcases c.input with - | input <;>
      rcases c.output with - | output <;> try rfl
    have hcontents : ∀ buffer, (m.watched told).contents buffer = m.contents buffer := fun _ => rfl
    simp only [hcontents]
    split <;> rfl
  · rw [if_neg hverify, if_neg hverify]
    rfl

/-! ### Executing -/

/-- What is submitted when the parameters of a client are turned into a job: nothing, or that job,
with host memory as it is then. -/
def Submits (c : Client σ) (m : Machine σ) (new : List Submission) : Prop :=
  new = [] ∨ ∃ job, jobOf c.params = .ok job ∧ new = [⟨job, c.options.timeout, m.memory⟩]

theorem execute_watched (p : Platform σ) (c : Client σ) (m : Machine σ) (told : List Submission) :
    ∃ new, c.watched.execute p.watched (m.watched told) = (c.execute p m).watched (told ++ new) ∧
      Submits c m new ∧ (c.stage ≠ .sessionOpen → new = []) := by
  by_cases hstage : c.stage = .sessionOpen
  · rw [execute, execute, inStage, inStage, if_pos (by exact hstage), if_pos (by exact hstage)]
    have hparams : c.watched.params = c.params := rfl
    have hoptions : c.watched.options = c.options := rfl
    have hsession : c.watched.session = c.session.map Session.watched := rfl
    simp only [hparams, hoptions, hsession]
    cases hjob : jobOf c.params with
    | error e =>
        refine ⟨[], ?_, Or.inl rfl, fun _ => rfl⟩
        rw [List.append_nil]
        exact fail_watched _ c (m.noteAll [preparation]) told
    | ok job =>
        simp only
        rcases hs : c.session with - | ⟨- | action, card⟩
        · refine ⟨[], ?_, Or.inl rfl, fun _ => rfl⟩
          rw [List.append_nil]
          exact fail_watched _ c (m.noteAll [preparation]) told
        · refine ⟨[], ?_, Or.inl rfl, fun _ => rfl⟩
          rw [List.append_nil]
          exact fail_watched _ c (m.noteAll [preparation]) told
        · refine ⟨[⟨job, c.options.timeout, m.memory⟩], ?_, Or.inr ⟨job, hjob, rfl⟩,
            fun h => absurd hstage h⟩
          have hnote : (m.watched told).noteAll [preparation] =
              (m.noteAll [preparation]).watched told := rfl
          simp only [hnote, submit, Option.map_some, Session.watched, Machine.execute_watched]
          rcases (m.noteAll [preparation]).execute action job c.options.timeout with
            ⟨e | _, done, m'⟩
          · exact fail_watched e c m' _
          · rfl
  · refine ⟨[], ?_, Or.inl rfl, fun _ => rfl⟩
    rw [List.append_nil, execute, execute, inStage, inStage, if_neg (by exact hstage),
      if_neg (by exact hstage)]
    rfl

/-! ### Calls -/

/-- A step that is asked for is watched as the step itself is. -/
theorem answerStep_watched (p : Platform σ) (c : Client σ) (m : Machine σ)
    (told : List Submission) (step : Step) :
    ∃ new, c.watched.answerStep p.watched (m.watched told) step =
        (c.answerStep p m step).watched (told ++ new) ∧
      Submits c m new ∧ (c.stage ≠ .sessionOpen → new = []) := by
  have hmap : ∀ {α β : Type} (f : α → β) {t : Turn σ α} {t' : Turn (σ × List Submission) α},
      t' = t.watched told → t'.map f = (t.map f).watched (told ++ []) := by
    rintro α β f t t' rfl
    rw [List.append_nil]
    rfl
  cases step with
  | stageInput => exact ⟨[], hmap _ (stageInput_watched p c m told), Or.inl rfl, fun _ => rfl⟩
  | stageOutput => exact ⟨[], hmap _ (stageOutput_watched p c m told), Or.inl rfl, fun _ => rfl⟩
  | acquireSession =>
      exact ⟨[], hmap _ (acquireSession_watched p c m told), Or.inl rfl, fun _ => rfl⟩
  | execute =>
      obtain ⟨new, hnew, hsubmits, hnone⟩ := execute_watched p c m told
      refine ⟨new, ?_, hsubmits, hnone⟩
      rw [answerStep, answerStep, hnew]
      rfl
  | writeOutput => exact ⟨[], hmap _ (writeOutput_watched c m told), Or.inl rfl, fun _ => rfl⟩
  | checkReturnCode =>
      exact ⟨[], hmap _ (checkReturnCode_watched c m told), Or.inl rfl, fun _ => rfl⟩
  | verify => exact ⟨[], hmap _ (verify_watched c m told), Or.inl rfl, fun _ => rfl⟩

/-- All that follows the execution is watched as its steps are. -/
theorem rest_watched (t : Turn σ Unit) (told : List Submission) :
    ((t.watched told).andThen fun _ c m => (c.writeOutput m).andThen fun _ c m =>
        (c.checkReturnCode m).andThen fun retc c m => (c.verify m).andThen fun verification c m =>
        (.ok (RunReport.mk retc verification), c, m)) =
      (t.andThen fun _ c m => (c.writeOutput m).andThen fun _ c m =>
        (c.checkReturnCode m).andThen fun retc c m => (c.verify m).andThen fun verification c m =>
        (.ok (RunReport.mk retc verification), c, m)).watched told := by
  refine Turn.andThen_watched fun _ c m => ?_
  rw [writeOutput_watched]
  refine Turn.andThen_watched fun _ c m => ?_
  rw [checkReturnCode_watched]
  refine Turn.andThen_watched fun _ c m => ?_
  rw [verify_watched]
  exact Turn.andThen_watched fun _ c m => rfl

theorem finish_watched (p : Platform σ) (c : Client σ) (m : Machine σ) (told : List Submission) :
    ∃ new, c.watched.finish p.watched (m.watched told) = (c.finish p m).watched (told ++ new) ∧
      Submits c m new ∧ (c.stage ≠ .staged → new = []) := by
  rw [finish, finish, acquireSession_watched]
  by_cases hstage : c.stage = .staged
  · rw [acquireSession, inStage, if_pos (by exact hstage)]
    rcases hacquire : Session.acquire p c.options.backend c.options.card c.options.irq m with
      ⟨e | s, m'⟩
    · refine ⟨[], ?_, Or.inl rfl, fun _ => rfl⟩
      rw [List.append_nil]
      rfl
    · obtain ⟨_, _, _, _, -, -, hcalled⟩ := Session.called_of_acquire hacquire
      have hmemory : m'.memory = m.memory := hcalled.memory
      obtain ⟨new, hnew, hsubmits, -⟩ := execute_watched p
        { c with stage := .sessionOpen, session := some s } m' told
      refine ⟨new, ?_, ?_, fun h => absurd hstage h⟩
      · simp only [Turn.watched, Turn.andThen]
        rw [hnew]
        exact rest_watched _ _
      · rwa [Submits, hmemory] at hsubmits
  · refine ⟨[], ?_, Or.inl rfl, fun _ => rfl⟩
    rw [List.append_nil, acquireSession, inStage, if_neg (by exact hstage)]
    rfl

/-- **Watching changes nothing, and a call submits at most the one job that the parameters
describe**, in a client that is staged or has a session open. -/
theorem answer_watched (p : Platform σ) (c : Client σ) (m : Machine σ) (told : List Submission)
    (call : Call) :
    ∃ new, c.watched.answer p.watched (m.watched told) call =
        (c.answer p m call).watched (told ++ new) ∧
      Submits c m new ∧ (c.stage ≠ .staged → c.stage ≠ .sessionOpen → new = []) := by
  cases call with
  | step step =>
      obtain ⟨new, hnew, hsubmits, hnone⟩ := answerStep_watched p c m told step
      exact ⟨new, hnew, hsubmits, fun _ => hnone⟩
  | complete =>
      obtain ⟨new, hnew, hsubmits, hnone⟩ := finish_watched p c m told
      refine ⟨new, ?_, hsubmits, fun hstaged _ => hnone hstaged⟩
      simp only [answer, complete, hnew]
      rcases c.finish p m with ⟨result, c', m'⟩
      simp only [Turn.watched, teardown_watched]
      rfl
  | teardown =>
      refine ⟨[], ?_, Or.inl rfl, fun _ _ => rfl⟩
      simp only [answer, teardown_watched, List.append_nil]
      rfl

end Client

end Offload
