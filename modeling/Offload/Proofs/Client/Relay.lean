/-
**What a run comes to, whatever the card does.**

A client does not know what the action does with a job: it may fail, answer any return code, and
write to any live buffer, also behind the part that the job names.  All that a run comes to is still
determined by what the card does and by the files.  The first stage that fails gives the error;
nothing is written before the job was executed, and then the output file gets the first bytes of the
output buffer, before anybody looks at the return code or compares anything.

Main definitions:

* `Platform.attached` — the action that is attached for a run, if no error comes first;
* `Client.exchange` — what the card makes of a job: an error, or a return code and the host memory;
* `Client.Stored`, `Client.Finds` — what becomes of the output file, and what is found when output
  and input are compared;
* `Client.Relayed` — what a run comes to.

Main results:

* `Session.acquire_attached` — a session is what `Platform.attached` says;
* `Client.acquire_execute` — the first two steps of a run are an exchange;
* `Client.Relayed.unique` — what a run comes to is determined;
* `Client.relayed_complete`, `Client.complete_relays` — **a staged client relays whatever the card
  does**.
-/

import Offload.Backend.Scripted
import Offload.Proofs.Client.Invariant
import Offload.Proofs.Files.Resolution
import Offload.Proofs.Memory.Contents
import Offload.Proofs.Verification

set_option relaxedAutoImplicit false
set_option autoImplicit false

namespace Offload

variable {σ : Type} {p : Platform σ} {o : Options} {c c' : Client σ} {m m' : Machine σ}
  {job : Job} {retc : UInt32} {host : HostMemory} {e : Error}

/-! ### The card -/

/-- The backend that is registered under a name. -/
def Platform.backendOf (p : Platform σ) (name device : String) : Except Error (Backend σ) :=
  match p.backends with
  | none => .error (.internal .noRegistry)
  | some backends =>
    match backends.find? fun b => b.name == name with
    | none => .error (.opening device ("no " ++ name ++ " backend in this build"))
    | some b => .ok b

/-- The action that is attached for a run, with the state of the backends then, or the first error:
that of opening the card, or else that of attaching the action. -/
def Platform.attached (p : Platform σ) (o : Options) (s : σ) : Except Error (Action σ × σ) := do
  let device := Device.ofCard o.card
  let b ← p.backendOf o.backend device
  let opened := b.openCard device s
  let card ← opened.result
  let attached := b.attach card device (Session.attachment o.irq) opened.state
  let action ← attached.result
  -- Whether the interrupt can be routed makes no difference to the result.
  let armed := b.assignInterrupt action Session.interruptSource attached.state
  return (⟨b, action⟩, if o.irq then armed.state else attached.state)

/-- What the card makes of a job: the first error, or the return code, and the host memory as the
action leaves it. -/
def Client.exchange (p : Platform σ) (o : Options) (job : Job) (host : HostMemory) (s : σ) :
    Except Error (UInt32 × HostMemory) := do
  let (action, s) ← p.attached o s
  let run := action.backend.execute action.number job o.timeout host s
  run.result
  return (run.retc, Machine.applyWrites run.writes host)

namespace Machine

/-- A card is opened by the backend of the name, or that fails with the error of the backend. -/
theorem openCard_backendOf (p : Platform σ) (name device : String) (m : Machine σ) :
    (∃ e m', m.openCard p name device = (.error e, m') ∧
        (p.backendOf name device = .error e ∨ ∃ b, p.backendOf name device = .ok b ∧
          (b.openCard device m.devices).result = .error e)) ∨
      ∃ b number m', m.openCard p name device = (.ok ⟨b, device, number⟩, m') ∧
        p.backendOf name device = .ok b ∧ (b.openCard device m.devices).result = .ok number ∧
        m'.devices = (b.openCard device m.devices).state := by
  rw [openCard, Platform.backendOf]
  cases p.backends with
  | none => exact Or.inl ⟨_, _, rfl, Or.inl rfl⟩
  | some backends =>
      simp only
      cases backends.find? fun b => b.name == name with
      | none => exact Or.inl ⟨_, _, rfl, Or.inl rfl⟩
      | some b =>
          simp only [devices_note]
          cases hopen : (b.openCard device m.devices).result with
          | error e => exact Or.inl ⟨e, _, rfl, Or.inr ⟨b, rfl, hopen⟩⟩
          | ok number => exact Or.inr ⟨b, number, _, rfl, rfl, hopen, rfl⟩

theorem attach_result (card : Card σ) (a : Attachment) (m : Machine σ) :
    (∃ e m', m.attach card a = (.error e, m') ∧
        (card.backend.attach card.number card.device a m.devices).result = .error e) ∨
      ∃ number m', m.attach card a = (.ok ⟨card.backend, number⟩, m') ∧
        (card.backend.attach card.number card.device a m.devices).result = .ok number ∧
        m'.devices = (card.backend.attach card.number card.device a m.devices).state := by
  rw [attach]
  cases hattach : (card.backend.attach card.number card.device a m.devices).result with
  | error e => exact Or.inl ⟨e, _, rfl, rfl⟩
  | ok number => exact Or.inr ⟨number, _, rfl, rfl, rfl⟩

end Machine

namespace Session

theorem devices_arm (action : Action σ) (irq : Bool) (m : Machine σ) :
    (arm action irq m).devices =
      if irq then
        (action.backend.assignInterrupt action.number interruptSource m.devices).state
      else m.devices := by
  cases irq with
  | false => rfl
  | true =>
      rw [arm, if_pos rfl, if_pos rfl]
      rcases hassign : m.assignInterrupt action interruptSource with ⟨e | _, m'⟩ <;>
        exact congrArg (fun r => r.2.devices) hassign.symm

/-- **A session is acquired with the action that is attached, or fails with the first error.** -/
theorem acquire_attached (p : Platform σ) (o : Options) (m : Machine σ) :
    (∃ e m', p.attached o m.devices = .error e ∧
        acquire p o.backend o.card o.irq m = (.error e, m')) ∨
      ∃ action devices card m', p.attached o m.devices = .ok (action, devices) ∧
        acquire p o.backend o.card o.irq m = (.ok ⟨some action, some card⟩, m') ∧
        m'.devices = devices := by
  rw [acquire, Platform.attached]
  rcases Machine.openCard_backendOf p o.backend (Device.ofCard o.card) m with
    ⟨e, m₁, hopen, hbackend | ⟨b, hbackend, hresult⟩⟩ |
      ⟨b, card, m₁, hopen, hbackend, hresult, hdev⟩
  · simp only [hopen, hbackend]
    exact Or.inl ⟨e, m₁, rfl, rfl⟩
  · simp only [hopen, hbackend, bind, Except.bind, hresult]
    exact Or.inl ⟨e, m₁, rfl, rfl⟩
  · simp only [hopen, hbackend, bind, Except.bind, hresult, ← hdev]
    rcases Machine.attach_result ⟨b, Device.ofCard o.card, card⟩ (attachment o.irq) m₁ with
      ⟨e, m₂, hattach, hresult⟩ | ⟨action, m₂, hattach, hresult, hdev⟩ <;>
      simp only at hresult
    · simp only [hattach, hresult]
      exact Or.inl ⟨e, _, rfl, rfl⟩
    · simp only at hdev
      simp only [hattach, hresult, ← hdev]
      exact Or.inr ⟨_, _, _, _, rfl, rfl, devices_arm ⟨b, action⟩ o.irq m₂⟩

end Session

namespace Client

open Machine (Holding)

/-! ### Session and job -/

/-- Whatever the action writes, the live buffers stay where they are. -/
theorem live_exchange {s : σ} {host' : HostMemory}
    (h : exchange p o job host s = .ok (retc, host')) (hhost : host.Sound) :
    host'.Sound ∧ host'.live = host.live := by
  rw [exchange] at h
  cases hattached : p.attached o s with
  | error e =>
      rw [hattached] at h
      cases h
  | ok attached =>
      obtain ⟨action, s'⟩ := attached
      simp only [hattached, bind, Except.bind] at h
      split at h
      · cases h
      · cases h
        exact Machine.sound_applyWrites _ hhost

/-- **Opening a session and executing the job are an exchange with the card.**  If it fails, so does
the run, before any file is written; and if not, the job is recorded with the return code. -/
theorem acquire_execute (p : Platform σ) (hstage : c.stage = .staged)
    (hjob : jobOf c.params = .ok job) (m : Machine σ) :
    (∃ e c' m', exchange p c.options job m.memory m.devices = .error e ∧
        c.finish p m = (.error e, c', m') ∧ m'.files = m.files) ∨
      ∃ retc session c₁ m₁ m₂,
        exchange p c.options job m.memory m.devices = .ok (retc, m₂.memory) ∧
        c.acquireSession p m = (.ok (), c₁, m₁) ∧
        c₁.execute p m₁ = (.ok (), { c with
          stage := .executed, session := some session, job := some { job with retc } }, m₂) ∧
        m₂.files = m.files := by
  rw [finish, acquireSession, inStage, if_pos (by exact hstage), exchange]
  rcases Session.acquire_attached p c.options m with
    ⟨e, m₁, hattached, hacquire⟩ | ⟨action, devices, card, m₁, hattached, hacquire, rfl⟩
  · obtain ⟨calls, -, hcalled⟩ := Session.called_of_acquire_error hacquire
    simp only [hattached, hacquire]
    exact Or.inl ⟨e, _, _, rfl, rfl, (files_teardown _ _).trans hcalled.files⟩
  · obtain ⟨_, _, _, _, -, -, hcalled⟩ := Session.called_of_acquire hacquire
    simp only [hattached, hacquire, Turn.andThen, bind, Except.bind, ← hcalled.memory]
    rcases execute_session (p := p) (c := { c with
        stage := .sessionOpen, session := some ⟨some action, some card⟩ }) rfl rfl rfl hjob m₁ with
      ⟨e, c₂, m₂, hresult, hexecute, hfiles⟩ | ⟨m₂, hresult, hexecute, hmemory, hfiles⟩ <;>
      simp only at hresult hexecute
    · simp only [hresult, hexecute]
      exact Or.inl ⟨e, c₂, m₂, rfl, rfl, hfiles.trans hcalled.files⟩
    · simp only [hresult, ← hmemory]
      exact Or.inr ⟨_, _, _, m₁, m₂, rfl, rfl, hexecute, hfiles.trans hcalled.files⟩

/-! ### The result -/

/-- What becomes of the output file, when the job leaves host memory as it is here: if there is to
be one, it gets the first bytes of the output buffer.  A special file takes what is written and
keeps nothing. -/
inductive Stored (o : Options) (size : Nat) (output : Option HostBuffer) (host : HostMemory)
    (files : FileTree) : Except Error FileTree → Prop
  | nowhere (hpath : o.output = none) : Stored o size output host files (.ok files)
  | written {path : Path} {b : HostBuffer} {d : Bytes} {files' : FileTree}
      (hpath : o.output = some path) (hb : output = some b) (hd : host.contents? b = some d)
      (hsize : size ≤ d.size) (hwrite : files.write path (d.take size) = .ok files')
      (hfound : files'.fileAt? path = some (d.take size) ∨
        files' = files ∧ ∃ loc kind, files.resolve true path = .ok ⟨loc, some (.special kind)⟩) :
      Stored o size output host files (.ok files')
  | refused {path : Path} {b : HostBuffer} {d : Bytes} {cause : IoError}
      (hpath : o.output = some path) (hb : output = some b) (hd : host.contents? b = some d)
      (hsize : size ≤ d.size) (hwrite : files.write path (d.take size) = .error cause) :
      Stored o size output host files (.error (.writing size path cause))

/-- What is found, when the job leaves host memory as it is here: nothing, unless a comparison is
asked for and both buffers are staged, and else whether the output buffer is the input with 1024
zeros behind it. -/
inductive Finds (o : Options) (input output : Option HostBuffer) (host : HostMemory) :
    Verification → Prop
  | skipped (h : o.verify = false ∨ input = none ∨ output = none) :
      Finds o input output host .skipped
  | passed {b b' : HostBuffer} {given found : Bytes} (hverify : o.verify = true)
      (hb : input = some b) (hb' : output = some b') (hgiven : host.contents? b = some given)
      (hfound : host.contents? b' = some found)
      (heq : found.toList = given.toList ++ List.replicate 1024 0) :
      Finds o input output host .passed
  | mismatch {b b' : HostBuffer} {given found : Bytes} {first : Option Nat} {dirty : Bool}
      (hverify : o.verify = true) (hb : input = some b) (hb' : output = some b')
      (hgiven : host.contents? b = some given) (hfound : host.contents? b' = some found)
      (hne : found.toList ≠ given.toList ++ List.replicate 1024 0)
      (hfirst : ∀ i, first = some i ↔ i < given.size ∧ given.toList[i]? ≠ found.toList[i]? ∧
        ∀ j < i, given.toList[j]? = found.toList[j]?)
      (hdirty : dirty = true ↔ ∃ x ∈ found.toList.drop given.size, x ≠ 0) :
      Finds o input output host (.mismatch first dirty)

/-- **What a run of a staged client comes to**, and the files afterwards.  The first error of the
exchange with the card comes before that of the output file, and this one before the return code. -/
inductive Relayed (p : Platform σ) (o : Options) (c : Client σ) (job : Job) (m : Machine σ) :
    Except Error RunReport → FileTree → Prop
  | refused {e : Error} (h : exchange p o job m.memory m.devices = .error e) :
      Relayed p o c job m (.error e) m.files
  | unwritten {retc : UInt32} {host : HostMemory} {e : Error}
      (h : exchange p o job m.memory m.devices = .ok (retc, host))
      (hstored : Stored o c.params.size c.output host m.files (.error e)) :
      Relayed p o c job m (.error e) m.files
  | failed {retc : UInt32} {host : HostMemory} {files : FileTree}
      (h : exchange p o job m.memory m.devices = .ok (retc, host))
      (hstored : Stored o c.params.size c.output host m.files (.ok files)) (hretc : retc ≠ 0x102) :
      Relayed p o c job m (.error (.returnCode retc)) files
  | done {retc : UInt32} {host : HostMemory} {files : FileTree} {v : Verification}
      (h : exchange p o job m.memory m.devices = .ok (retc, host))
      (hstored : Stored o c.params.size c.output host m.files (.ok files)) (hretc : retc = 0x102)
      (hv : Finds o c.input c.output host v) :
      Relayed p o c job m (.ok ⟨retc, v⟩) files

/-! ### What is relayed is determined -/

section Unique

variable {size : Nat} {input output : Option HostBuffer} {files : FileTree}
  {r r' : Except Error FileTree} {v v' : Verification}

theorem Stored.of_none (h : Stored o size output host files r) (hpath : o.output = none) :
    r = .ok files := by
  cases h with
  | nowhere _ => rfl
  | written hpath' => cases hpath.symm.trans hpath'
  | refused hpath' => cases hpath.symm.trans hpath'

/-- An output file that is to be written gets the first bytes of the output buffer. -/
theorem Stored.of_some {path : Path} (h : Stored o size output host files r)
    (hpath : o.output = some path) :
    ∃ b d, output = some b ∧ host.contents? b = some d ∧ size ≤ d.size ∧
      r = (files.write path (d.take size)).mapError (Error.writing size path) := by
  cases h with
  | nowhere hpath' => cases hpath.symm.trans hpath'
  | written hpath' hb hd hsize hwrite =>
      cases hpath.symm.trans hpath'
      exact ⟨_, _, hb, hd, hsize, by rw [hwrite]; rfl⟩
  | refused hpath' hb hd hsize hwrite =>
      cases hpath.symm.trans hpath'
      exact ⟨_, _, hb, hd, hsize, by rw [hwrite]; rfl⟩

/-- An output file can only fail to be written. -/
theorem Stored.eq_writing {e : Error} (h : Stored o size output host files (.error e)) :
    ∃ path cause, e = .writing size path cause := by
  cases h with
  | refused _ _ _ _ _ => exact ⟨_, _, rfl⟩

/-- One thing becomes of the output file. -/
theorem Stored.unique (h : Stored o size output host files r)
    (h' : Stored o size output host files r') : r = r' := by
  cases hpath : o.output with
  | none => rw [h.of_none hpath, h'.of_none hpath]
  | some path =>
      obtain ⟨b, d, hb, hd, -, hr⟩ := h.of_some hpath
      obtain ⟨b', d', hb', hd', -, hr'⟩ := h'.of_some hpath
      cases hb.symm.trans hb'
      cases hd.symm.trans hd'
      rw [hr, hr']

theorem Finds.eq_skipped (h : Finds o input output host v)
    (hnot : o.verify = false ∨ input = none ∨ output = none) : v = .skipped := by
  cases h with
  | skipped _ => rfl
  | passed hverify hb hb' | mismatch hverify hb hb' =>
      rcases hnot with hnot | hnot | hnot
      · cases hverify.symm.trans hnot
      · cases hb.symm.trans hnot
      · cases hb'.symm.trans hnot

/-- One thing is found. -/
theorem Finds.unique (h : Finds o input output host v) (h' : Finds o input output host v') :
    v = v' := by
  cases h with
  | skipped hnot => exact (h'.eq_skipped hnot).symm
  | passed hverify hb hb' hgiven hfound heq =>
      cases h' with
      | skipped hnot =>
          exact (Finds.passed hverify hb hb' hgiven hfound heq).eq_skipped hnot
      | passed _ _ _ _ _ _ => rfl
      | mismatch _ hc hc' hgiven' hfound' hne _ _ =>
          cases hb.symm.trans hc
          cases hb'.symm.trans hc'
          cases hgiven.symm.trans hgiven'
          cases hfound.symm.trans hfound'
          exact absurd heq hne
  | mismatch hverify hb hb' hgiven hfound hne hfirst hdirty =>
      cases h' with
      | skipped hnot =>
          exact (Finds.mismatch hverify hb hb' hgiven hfound hne hfirst hdirty).eq_skipped hnot
      | passed _ hc hc' hgiven' hfound' heq =>
          cases hb.symm.trans hc
          cases hb'.symm.trans hc'
          cases hgiven.symm.trans hgiven'
          cases hfound.symm.trans hfound'
          exact absurd heq hne
      | mismatch _ hc hc' hgiven' hfound' _ hfirst' hdirty' =>
          cases hb.symm.trans hc
          cases hb'.symm.trans hc'
          cases hgiven.symm.trans hgiven'
          cases hfound.symm.trans hfound'
          rw [Option.ext fun i => (hfirst i).trans (hfirst' i).symm,
            Bool.eq_iff_iff.2 (hdirty.trans hdirty'.symm)]

/-- **What the card does, and the files, determine what a run comes to.** -/
theorem Relayed.unique {result result' : Except Error RunReport} {after after' : FileTree}
    (h : Relayed p o c job m result after) (h' : Relayed p o c job m result' after') :
    result = result' ∧ after = after' := by
  cases h with
  | refused hexchange =>
      cases h' with
      | refused hexchange' =>
          cases hexchange.symm.trans hexchange'
          exact ⟨rfl, rfl⟩
      | unwritten hexchange' | failed hexchange' | done hexchange' =>
          cases hexchange.symm.trans hexchange'
  | unwritten hexchange hstored =>
      cases h' with
      | refused hexchange' => cases hexchange.symm.trans hexchange'
      | unwritten hexchange' hstored' =>
          cases hexchange.symm.trans hexchange'
          cases hstored.unique hstored'
          exact ⟨rfl, rfl⟩
      | failed hexchange' hstored' | done hexchange' hstored' =>
          cases hexchange.symm.trans hexchange'
          cases hstored.unique hstored'
  | failed hexchange hstored hretc =>
      cases h' with
      | refused hexchange' => cases hexchange.symm.trans hexchange'
      | unwritten hexchange' hstored' =>
          cases hexchange.symm.trans hexchange'
          cases hstored.unique hstored'
      | failed hexchange' hstored' _ =>
          cases hexchange.symm.trans hexchange'
          cases hstored.unique hstored'
          exact ⟨rfl, rfl⟩
      | done hexchange' _ hretc' _ =>
          cases hexchange.symm.trans hexchange'
          exact absurd hretc' hretc
  | done hexchange hstored hretc hfinds =>
      cases h' with
      | refused hexchange' => cases hexchange.symm.trans hexchange'
      | unwritten hexchange' hstored' =>
          cases hexchange.symm.trans hexchange'
          cases hstored.unique hstored'
      | failed hexchange' _ hretc' =>
          cases hexchange.symm.trans hexchange'
          exact absurd hretc hretc'
      | done hexchange' hstored' _ hfinds' =>
          cases hexchange.symm.trans hexchange'
          cases hstored.unique hstored'
          cases hfinds.unique hfinds'
          exact ⟨rfl, rfl⟩

end Unique

/-! ### The steps that lead there -/

/-- A client whose job was executed, on a machine on which its buffers hold something. -/
structure Ran (o : Options) (job : Job) (c : Client σ) (m : Machine σ) : Prop where
  stage : c.stage = .executed
  job : c.job = some job
  options : c.options = o
  staged : Staged o c.input c.output c.params
  contents : ∀ b ∈ c.buffers, ∃ d, m.memory.contents? b = some d ∧ d.size = b.size

/-- **Writing the output** does what is said of the output file. -/
theorem writeOutput_stored (h : Ran o job c m) :
    (∃ m', c.writeOutput m = (.ok (), c, m') ∧ m'.memory = m.memory ∧
        Stored o c.params.size c.output m.memory m.files (.ok m'.files)) ∨
      ∃ e c' m', c.writeOutput m = (.error e, c', m') ∧ m'.files = m.files ∧
        Stored o c.params.size c.output m.memory m.files (.error e) := by
  cases hpath : o.output with
  | none =>
      have hnothing : c.writeOutput m = (.ok (), c, m) := by
        rw [writeOutput, inStage, if_pos (by exact h.stage), h.options, hpath]
      exact Or.inl ⟨m, hnothing, rfl, Stored.nowhere hpath⟩
  | some path =>
      obtain ⟨b, hb⟩ := Option.isSome_iff_exists.1 (h.staged.output_iff.2 (Or.inl (hpath ▸ rfl)))
      obtain ⟨d, hd, hsize⟩ := h.contents b (mem_buffers_of_output hb)
      have hroom : c.params.size ≤ d.size := by
        rw [hsize, (h.staged.target_of_some hb).1]
        exact Nat.le_add_right _ _
      have hdata : m.contents b = d := by rw [Machine.contents, hd, Option.getD_some]
      have hsized : (d.take c.params.size).size = c.params.size := by
        rw [Bytes.size_take, Nat.min_eq_left hroom]
      rcases writeOutput_cases h.stage (h.options.symm ▸ hpath) hb m with
        ⟨files, m', hwrite, hdone, hm'⟩ | ⟨cause, m', hwrite, hfailed, hm'⟩ <;>
        rw [hdata] at hwrite
      · obtain rfl : m'.files = files := hm'.files
        exact Or.inl ⟨m', hdone, hm'.memory,
          Stored.written hpath hb hd hroom hwrite (FileTree.fileAt?_write hwrite)⟩
      · rw [hdata, hsized] at hfailed
        exact Or.inr ⟨_, _, _, hfailed, (files_teardown _ _).trans hm'.files,
          Stored.refused hpath hb hd hroom hwrite⟩

theorem finds_compare {input output : Option HostBuffer} {b b' : HostBuffer} {given found : Bytes}
    (hverify : o.verify = true) (hb : input = some b) (hb' : output = some b')
    (hgiven : host.contents? b = some given) (hfound : host.contents? b' = some found)
    (hlen : found.toList.length = given.toList.length + 1024) :
    Finds o input output host (Verification.compare given.toList found.toList) := by
  have hpassed := Verification.compare_eq_passed_iff hlen
  rcases Verification.compare_eq given.toList found.toList with heq | heq <;> rw [heq] at hpassed ⊢
  · exact Finds.passed hverify hb hb' hgiven hfound (hpassed.1 rfl)
  · refine Finds.mismatch hverify hb hb' hgiven hfound ?_ ?_ ?_
    · exact fun hsame => by cases hpassed.2 hsame
    · intro i
      rw [firstDifference_eq_some_iff, Bytes.length_toList]
      refine and_congr_right fun hi => and_iff_right ?_
      rw [hlen, Bytes.length_toList]
      exact Nat.lt_add_right 1024 hi
    · rw [Verification.guardDirty_iff, Bytes.length_toList]

/-- **Comparing** finds what is said of the buffers. -/
theorem verify_finds (h : Ran o job c m) :
    ∃ v c' m', c.verify m = (.ok v, c', m') ∧ m'.files = m.files ∧
      Finds o c.input c.output m.memory v := by
  rw [verify, inStage, if_pos (by exact h.stage), h.options]
  cases hverify : o.verify with
  | false => exact ⟨_, _, _, rfl, rfl, Finds.skipped (Or.inl hverify)⟩
  | true =>
      rw [if_pos rfl]
      cases hb : c.input with
      | none =>
          split
          · next hsome _ => cases hsome
          · exact ⟨_, _, _, rfl, rfl, Finds.skipped (Or.inr (Or.inl rfl))⟩
      | some b =>
          cases hb' : c.output with
          | none =>
              split
              · next hsome => cases hsome
              · exact ⟨_, _, _, rfl, rfl, Finds.skipped (Or.inr (Or.inr rfl))⟩
          | some b' =>
              obtain ⟨hsize, hin, -⟩ := h.staged.source_of_some hb
              obtain ⟨hroom, hout, -⟩ := h.staged.target_of_some hb'
              obtain ⟨given, hgiven, hgsize⟩ := h.contents b (mem_buffers_of_input hb)
              obtain ⟨found, hfound, hfsize⟩ := h.contents b' (mem_buffers_of_output hb')
              simp only [hin, hout, Machine.contents, hgiven, hfound, Option.getD_some]
              have hlen : found.toList.length = given.toList.length + 1024 := by
                rw [Bytes.length_toList, Bytes.length_toList, hfsize, hgsize, hroom, hverify, hsize]
                rfl
              exact ⟨_, _, _, rfl, by split <;> rfl,
                finds_compare hverify rfl rfl hgiven hfound hlen⟩

/-- The steps that follow the job. -/
def conclude (c : Client σ) (m : Machine σ) : Turn σ RunReport :=
  (c.writeOutput m).andThen fun _ c m =>
  (c.checkReturnCode m).andThen fun retc c m =>
  (c.verify m).andThen fun verification c m =>
  (.ok ⟨retc, verification⟩, c, m)

theorem finish_eq (p : Platform σ) (c : Client σ) (m : Machine σ) :
    c.finish p m = (c.acquireSession p m).andThen fun _ c m =>
      (c.execute p m).andThen fun _ c m => c.conclude m :=
  rfl

/-- **What follows the job**: the output file comes first, then the return code, then the
comparison. -/
theorem conclude_cases (h : Ran o job c m) :
    (∃ e c' m', c.conclude m = (.error e, c', m') ∧ m'.files = m.files ∧
        Stored o c.params.size c.output m.memory m.files (.error e)) ∨
      (∃ c' m', c.conclude m = (.error (.returnCode job.retc), c', m') ∧
        job.retc ≠ Job.success ∧
        Stored o c.params.size c.output m.memory m.files (.ok m'.files)) ∨
      ∃ v c' m', c.conclude m = (.ok ⟨job.retc, v⟩, c', m') ∧ job.retc = Job.success ∧
        Stored o c.params.size c.output m.memory m.files (.ok m'.files) ∧
        Finds o c.input c.output m.memory v := by
  rw [conclude]
  rcases writeOutput_stored h with
    ⟨m₁, hwrite, hmemory, hstored⟩ | ⟨e, c₁, m₁, hwrite, hfiles, hstored⟩
  · have hcheck : c.checkReturnCode m₁ = if job.succeeded then (.ok job.retc, c, m₁)
        else c.fail (.returnCode job.retc) m₁ := by
      rw [checkReturnCode, inStage, if_pos (by exact h.stage), h.job]
    simp only [hwrite, Turn.andThen, hcheck]
    by_cases hsuccess : job.retc = Job.success
    · have hran : Ran o job c m₁ := ⟨h.stage, h.job, h.options, h.staged, hmemory ▸ h.contents⟩
      obtain ⟨v, c₂, m₂, hverify, hfiles, hfinds⟩ := verify_finds hran
      have hsucceeded : job.succeeded = true := beq_iff_eq.2 hsuccess
      simp only [hsucceeded, if_true, hverify]
      exact Or.inr (Or.inr ⟨v, c₂, m₂, rfl, hsuccess, hfiles ▸ hstored, hmemory ▸ hfinds⟩)
    · have hfailed : ¬job.succeeded = true := mt beq_iff_eq.1 hsuccess
      simp only [hfailed]
      exact Or.inr (Or.inl ⟨_, _, rfl, hsuccess, (files_teardown _ m₁).symm ▸ hstored⟩)
  · simp only [hwrite, Turn.andThen]
    exact Or.inl ⟨e, c₁, m₁, rfl, hfiles, hstored⟩

/-- The exit status tells a mismatch from all other reports. -/
theorem exitStatus_eq (r : RunReport) :
    r.exitStatus = match r.verification with
      | .mismatch _ _ => 65
      | _ => 0 := by
  rw [RunReport.exitStatus]
  cases r.verification <;> rfl

/-- **Completing relays whatever the card does with the job**: the client is staged, and the job is
the one that its parameters describe. -/
theorem relayed_complete (h : Reachable o c m) (hstage : c.stage = .staged)
    (hjob : jobOf c.params = .ok job) :
    Relayed p o c job m (c.complete p m).1 (c.complete p m).2.2.files := by
  obtain ⟨hphase, others, hheld⟩ := h.holding
  obtain rfl := hphase.options
  have hstaged : Staged c.options c.input c.output c.params := hphase.staged_of_stage hstage
  rw [complete]
  simp only [files_teardown]
  rcases acquire_execute p hstage hjob m with
    ⟨e, c', m', hexchange, hfinish, hfiles⟩ |
    ⟨retc, session, c₁, m₁, m₂, hexchange, hacquire, hexecute, hfiles⟩
  · simp only [hfinish, hfiles]
    exact Relayed.refused hexchange
  · -- The buffers are live still, so that it can be told what they hold.
    obtain ⟨hsound, hlive⟩ := live_exchange hexchange hheld.sound
    have hcontents : ∀ b ∈ c.buffers, ∃ d, m₂.memory.contents? b = some d ∧ d.size = b.size := by
      intro b hb
      have hmem : b ∈ m₂.memory.live := hlive ▸ hheld.mem_live hb
      obtain ⟨x, rfl, hx, -⟩ := hsound.exists_block hmem
      exact ⟨x.bytes, hx, rfl⟩
    have hran : Ran c.options { job with retc } { c with
        stage := .executed, session := some session, job := some { job with retc } } m₂ :=
      ⟨rfl, rfl, rfl, hstaged, hcontents⟩
    simp only [finish_eq, hacquire, Turn.andThen, hexecute]
    rcases conclude_cases hran with
      ⟨e, c', m', hconclude, hsame, hstored⟩ | ⟨c', m', hconclude, hretc, hstored⟩ |
      ⟨v, c', m', hconclude, hretc, hstored, hfinds⟩ <;>
      rw [hfiles] at hstored <;> simp only [hconclude]
    · rw [hsame, hfiles]
      exact Relayed.unwritten hexchange hstored
    · exact Relayed.failed hexchange hstored hretc
    · exact Relayed.done hexchange hstored hretc hfinds

/-- **A staged client relays whatever the card does.**  The result is the first error among those of
opening the card, attaching the action, executing the job and writing the output file, or that of an
unexpected return code, or else a report.  The output file is written as soon as the job was
executed, whatever the return code is and whatever is found afterwards. -/
theorem complete_relays (h : Reachable o c m) (hstage : c.stage = .staged) :
    ∃ job, jobOf c.params = .ok job ∧
      Relayed p o c job m (c.complete p m).1 (c.complete p m).2.2.files ∧
      ∀ report, (c.complete p m).1 = .ok report →
        report.exitStatus = match report.verification with
          | .mismatch _ _ => 65
          | _ => 0 := by
  obtain ⟨hphase, -⟩ := h.holding
  obtain ⟨len, -, hjob⟩ := jobOf_eq_ok (hphase.staged_of_stage hstage).size_lt
  exact ⟨_, hjob, relayed_complete h hstage hjob, fun report _ => exitStatus_eq report⟩

/-- A card that cannot route its interrupt, and whose action writes to the guard: the run succeeds
with a mismatch, and the output file holds the data only. -/
theorem complete_relays_scripted :
    let files : FileTree := { entries := [([[97]], .file (.ofList [65, 98]))], workDir := [] }
    let script : Script := { Script.faultless with
      interruptError := some (-5, "no interrupt"), pokes := [(4, .ofList [7])] }
    let p : Platform Script := ⟨.slots, some [Scripted.backend], 0⟩
    let o : Options := { Options.standard "MOCK" with
      input := some ⟨[97]⟩, output := some ⟨[98]⟩, verify := true }
    let staged := afterCalls p [.step .stageInput, .step .stageOutput] (fresh o)
      ⟨.empty, files, script, [], []⟩
    Reachable o staged.1 staged.2 ∧ staged.1.stage = .staged ∧
      (∃ job, jobOf staged.1.params = .ok job ∧
        Relayed p o staged.1 job staged.2 (staged.1.complete p staged.2).1
          (staged.1.complete p staged.2).2.2.files) ∧
      (staged.1.complete p staged.2).1 = .ok ⟨0x102, .mismatch none true⟩ ∧
      ((staged.1.complete p staged.2).2.2.files.fileAt? ⟨[98]⟩).map Bytes.toList =
        some [65, 98] := by
  intro files script p o staged
  have hreachable : Reachable o staged.1 staged.2 :=
    reachable_afterCalls Allocator.sound_slots (.fresh HostMemory.sound_empty) _
  have hstage : staged.1.stage = .staged := by decide +kernel
  obtain ⟨job, hjob, hrelayed, -⟩ := complete_relays (p := p) hreachable hstage
  exact ⟨hreachable, hstage, ⟨job, hjob, hrelayed⟩, by decide +kernel, by decide +kernel⟩

end Client

end Offload
