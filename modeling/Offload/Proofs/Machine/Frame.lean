/-
**What the operations of the machine leave alone.**

Every operation of the machine logs something, and most of them do little else.  Here each of them
is described by what it does not do: sizing and reading a file change nothing but the log; a call on
a card changes neither host memory nor files and leaves its mark on the record; only taking and
freeing buffers changes which buffers are live.

Main definitions:

* `Machine.Noted` — nothing differs but the log;
* `Machine.Called` — nothing happened but certain calls on cards, which a backend heard;
* `Machine.Holding` — the live buffers are certain ones, and those of others.

Main results:

* `Machine.called_of_openCard`, `Machine.called_of_attach`, `Machine.called_detach`,
  `Machine.called_release` — the calls on a card, one by one;
* `Machine.Holding.allocate`, `Machine.Holding.free`, `Machine.Holding.execute` — **who holds what
  after a buffer is taken, after one is freed, and after a job wrote to host memory**.
-/

import Offload.Proofs.Backend.Heard
import Offload.Proofs.Memory.Live

set_option relaxedAutoImplicit false
set_option autoImplicit false

namespace Offload

namespace Machine

variable {σ : Type} {p : Platform σ} {m m' m'' : Machine σ} {name : String}
  {new new' : List Heard} {held others : List HostBuffer} {b : HostBuffer}

/-! ### Notes and records -/

@[simp] theorem memory_noteAll (r : List Log.Record) (m : Machine σ) :
    (m.noteAll r).memory = m.memory := rfl

@[simp] theorem files_noteAll (r : List Log.Record) (m : Machine σ) :
    (m.noteAll r).files = m.files := rfl

@[simp] theorem events_noteAll (r : List Log.Record) (m : Machine σ) :
    (m.noteAll r).events = m.events := rfl

@[simp] theorem memory_note (l : Log.Level) (s : Log.Source) (t : String) (m : Machine σ) :
    (m.note l s t).memory = m.memory := rfl

@[simp] theorem files_note (l : Log.Level) (s : Log.Source) (t : String) (m : Machine σ) :
    (m.note l s t).files = m.files := rfl

@[simp] theorem devices_note (l : Log.Level) (s : Log.Source) (t : String) (m : Machine σ) :
    (m.note l s t).devices = m.devices := rfl

@[simp] theorem events_note (l : Log.Level) (s : Log.Source) (t : String) (m : Machine σ) :
    (m.note l s t).events = m.events := rfl

@[simp] theorem memory_recording (e : Event) (m : Machine σ) :
    (m.recording e).memory = m.memory := rfl

@[simp] theorem events_recording (e : Event) (m : Machine σ) :
    (m.recording e).events = m.events ++ [e] := rfl

/-- Nothing differs but the log. -/
structure Noted (m m' : Machine σ) : Prop where
  memory : m'.memory = m.memory
  files : m'.files = m.files
  devices : m'.devices = m.devices
  events : m'.events = m.events

theorem Noted.refl (m : Machine σ) : Noted m m := ⟨rfl, rfl, rfl, rfl⟩

theorem Noted.trans (h : Noted m m') (h' : Noted m' m'') : Noted m m'' :=
  ⟨h'.memory.trans h.memory, h'.files.trans h.files, h'.devices.trans h.devices,
    h'.events.trans h.events⟩

theorem noted_noteAll (r : List Log.Record) (m : Machine σ) : Noted m (m.noteAll r) :=
  ⟨rfl, rfl, rfl, rfl⟩

/-- Freeing a buffer or filling one does not look at the log. -/
theorem Noted.free (h : Noted m m') (b : HostBuffer) : Noted (m.free b) (m'.free b) :=
  ⟨congrArg (HostMemory.free b) h.memory, h.files, h.devices, by
    simp [Machine.free, Machine.note, Machine.noteAll, Machine.recording, h.events]⟩

theorem Noted.fill (h : Noted m m') (b : HostBuffer) (d : Bytes) :
    Noted (m.fill b d) (m'.fill b d) :=
  ⟨congrArg (HostMemory.modify b.addr (·.overwrite 0 d)) h.memory, h.files, h.devices, h.events⟩

theorem noted_note (l : Log.Level) (s : Log.Source) (t : String) (m : Machine σ) :
    Noted m (m.note l s t) :=
  noted_noteAll _ m

/-! ### Files -/

/-- Sizing a file changes nothing but the log, and answers what the files say. -/
theorem fileSize_spec {path : Path} {r : Except Error Nat} (h : m.fileSize path = (r, m')) :
    Noted m m' ∧
      ((∃ cause, m.files.fileSize path = .error cause ∧ r = .error (.sizing path cause)) ∨
        ∃ len, m.files.fileSize path = .ok len ∧ r = .ok len) := by
  rw [fileSize, files_note] at h
  cases hlen : m.files.fileSize path with
  | error cause =>
      simp only [hlen] at h
      cases h
      exact ⟨noted_note _ _ _ _, Or.inl ⟨cause, rfl, rfl⟩⟩
  | ok len =>
      simp only [hlen] at h
      cases h
      exact ⟨(noted_note _ _ _ _).trans (noted_note _ _ _ _), Or.inr ⟨len, rfl, rfl⟩⟩

/-- Reading a file changes nothing but the log, and answers what the files say. -/
theorem readFile_spec {path : Path} {len : Nat} {r : Except Error Bytes}
    (h : m.readFile path len = (r, m')) :
    Noted m m' ∧
      ((∃ cause, m.files.readExact path len = .error cause ∧ r = .error (.reading path cause)) ∨
        ∃ d, m.files.readExact path len = .ok d ∧ r = .ok d) := by
  rw [readFile, files_note] at h
  cases hd : m.files.readExact path len with
  | error cause =>
      simp only [hd] at h
      cases h
      exact ⟨noted_note _ _ _ _, Or.inl ⟨cause, rfl, rfl⟩⟩
  | ok d =>
      simp only [hd] at h
      cases h
      exact ⟨(noted_note _ _ _ _).trans (noted_note _ _ _ _), Or.inr ⟨d, rfl, rfl⟩⟩

/-- Writing a file changes the files at most, and does so only if it succeeds. -/
theorem writeFile_spec (path : Path) (d : Bytes) (m : Machine σ) :
    (∃ files, m.files.write path d = .ok files ∧ (m.writeFile path d).1 = .ok () ∧
        Noted { m with files } (m.writeFile path d).2) ∨
      ∃ cause, m.files.write path d = .error cause ∧
        (m.writeFile path d).1 = .error (.writing d.size path cause) ∧
        Noted m (m.writeFile path d).2 := by
  rw [writeFile, files_note]
  cases m.files.write path d with
  | error cause => exact Or.inr ⟨cause, rfl, rfl, noted_note _ _ _ _⟩
  | ok files => exact Or.inl ⟨files, rfl, rfl, ⟨rfl, rfl, rfl, rfl⟩⟩

theorem memory_of_writeFile {path : Path} {d : Bytes} {r : Except Error Unit}
    (h : m.writeFile path d = (r, m')) : m'.memory = m.memory := by
  rcases writeFile_spec path d m with ⟨files, -, -, hm⟩ | ⟨cause, -, -, hm⟩ <;> rw [h] at hm
  · exact hm.memory
  · exact hm.memory

theorem events_of_writeFile {path : Path} {d : Bytes} {r : Except Error Unit}
    (h : m.writeFile path d = (r, m')) : m'.events = m.events := by
  rcases writeFile_spec path d m with ⟨files, -, -, hm⟩ | ⟨cause, -, -, hm⟩ <;> rw [h] at hm
  · exact hm.events
  · exact hm.events

theorem devices_of_writeFile {path : Path} {d : Bytes} {r : Except Error Unit}
    (h : m.writeFile path d = (r, m')) : m'.devices = m.devices := by
  rcases writeFile_spec path d m with ⟨files, -, -, hm⟩ | ⟨cause, -, -, hm⟩ <;> rw [h] at hm
  · exact hm.devices
  · exact hm.devices

/-! ### Calls on cards -/

/-- Host memory and files are the same, the backend of a name heard the given calls, and nothing but
these calls was put on record. -/
structure Called (p : Platform σ) (name : String) (new : List Heard) (m m' : Machine σ) :
    Prop where
  memory : m'.memory = m.memory
  files : m'.files = m.files
  events : m'.events = m.events ++ new.map (Heard.event name)
  devices : p.Hears name m.devices new m'.devices

theorem Noted.called (h : Noted m m') : Called p name [] m m' where
  memory := h.memory
  files := h.files
  events := by rw [h.events, List.map_nil, List.append_nil]
  devices := h.devices ▸ p.hears_nil name m.devices

theorem Called.trans (h : Called p name new m m') (h' : Called p name new' m' m'') :
    Called p name (new ++ new') m m'' where
  memory := h'.memory.trans h.memory
  files := h'.files.trans h.files
  events := by rw [h'.events, h.events, List.map_append, List.append_assoc]
  devices := h.devices.append h'.devices

theorem Called.note (h : Called p name new m m') (l : Log.Level) (s : Log.Source) (t : String) :
    Called p name new m (m'.note l s t) :=
  ⟨h.memory, h.files, h.events, h.devices⟩

/-- A call that the backend of the name heard, and that is on record. -/
theorem called_of_hears {call : Heard} {b : Backend σ} (hb : p.backend? name = some b)
    (hmemory : m'.memory = m.memory) (hfiles : m'.files = m.files)
    (hevents : m'.events = m.events ++ [call.event b.name])
    (hdevices : b.Hears m.devices call m'.devices) : Called p name [call] m m' where
  memory := hmemory
  files := hfiles
  events := Platform.name_of_backend? hb ▸ hevents
  devices := (Platform.hears_iff hb).2 hdevices.all

theorem succeeded_ok {α : Type} (a : α) : succeeded (.ok a : Except Error α) = true := rfl

theorem succeeded_error {α : Type} (e : Error) : succeeded (.error e : Except Error α) = false :=
  rfl

/-- The backend of the name that was given, if there is one, is asked once, and what it says is what
comes of it. -/
theorem openCard_cases (p : Platform σ) (name device : String) (m : Machine σ) :
    (∃ e, (m.openCard p name device).1 = .error e ∧
        Called p name [] m (m.openCard p name device).2) ∨
      ∃ b, p.backend? name = some b ∧
        (m.openCard p name device).1 =
          (b.openCard device m.devices).result.map (fun number => ⟨b, device, number⟩) ∧
        Called p name [.openCard device (b.openCard device m.devices).result.toOption] m
          (m.openCard p name device).2 := by
  cases hbackends : p.backends with
  | none =>
      simp only [openCard, hbackends]
      exact Or.inl ⟨_, rfl, (Noted.refl m).called⟩
  | some backends =>
      cases hfind : backends.find? fun b => b.name == name with
      | none =>
          simp only [openCard, hbackends, hfind]
          exact Or.inl ⟨_, rfl, ((noted_note _ _ _ m).trans (noted_noteAll _ _)).called⟩
      | some b =>
          have hb : p.backend? name = some b := by
            rw [Platform.backend?, hbackends]
            exact hfind
          have hheard : b.Hears m.devices _ _ := .openCard device m.devices
          refine Or.inr ⟨b, hb, ?_⟩
          cases hr : (b.openCard device m.devices).result <;>
            simp only [openCard, hbackends, hfind, devices_note, hr] at hheard ⊢
          · exact ⟨rfl, called_of_hears hb rfl rfl rfl hheard⟩
          · exact ⟨rfl, called_of_hears hb rfl rfl rfl hheard⟩

/-- A card that was opened belongs to the backend of the name that was given. -/
theorem called_of_openCard {device : String} {card : Card σ}
    (h : m.openCard p name device = (.ok card, m')) :
    p.backend? name = some card.backend ∧ card.device = device ∧
      Called p name [.openCard device (some card.number)] m m' := by
  rcases openCard_cases p name device m with ⟨e, herror, -⟩ | ⟨b, hb, hresult, hcalled⟩
  · rw [h] at herror
    cases herror
  · rw [h] at hresult hcalled
    cases hr : (b.openCard device m.devices).result <;> rw [hr] at hresult hcalled <;>
      cases hresult
    exact ⟨hb, rfl, hcalled⟩

/-- How a machine goes on when a backend opens a card. -/
theorem openCard_eq_ok {name device : String} {backends : List (Backend σ)} {b : Backend σ}
    {number : Nat} (hp : p.backends = some backends)
    (hfind : (backends.find? fun c => c.name == name) = some b)
    (hok : (b.openCard device m.devices).result = .ok number) :
    m.openCard p name device = (.ok ⟨b, device, number⟩,
      ({ m.note .trace .platform
          ("opening " ++ Text.quoted device ++ " with backend " ++ Text.quoted name) with
        devices := (b.openCard device m.devices).state }.noteAll
          (b.openCard device m.devices).log).noteCall b (.openCard device) true) := by
  simp only [openCard, hp, hfind, devices_note, hok, succeeded]

/-- A card that could not be opened was tried once at most. -/
theorem called_of_openCard_error {device : String} {e : Error}
    (h : m.openCard p name device = (.error e, m')) :
    Called p name [] m m' ∨ Called p name [.openCard device none] m m' := by
  rcases openCard_cases p name device m with ⟨_, -, hcalled⟩ | ⟨b, -, hresult, hcalled⟩ <;>
    rw [h] at hcalled
  · exact Or.inl hcalled
  · rw [h] at hresult
    cases hr : (b.openCard device m.devices).result <;> rw [hr] at hresult hcalled <;>
      cases hresult
    exact Or.inr hcalled

theorem called_of_attach {card : Card σ} {a : Attachment} {action : Action σ}
    (hb : p.backend? name = some card.backend) (h : m.attach card a = (.ok action, m')) :
    action.backend = card.backend ∧
      Called p name [.attach card.number card.device a (some action.number)] m m' := by
  have hheard : card.backend.Hears m.devices _ _ := .attach card.number card.device a m.devices
  rw [attach] at h
  split at h
  · cases h
  · next hr =>
      cases h
      rw [hr] at hheard
      refine ⟨rfl, called_of_hears hb rfl rfl ?_ hheard⟩
      rw [hr, succeeded_ok]
      rfl

theorem called_of_attach_error {card : Card σ} {a : Attachment} {e : Error}
    (hb : p.backend? name = some card.backend) (h : m.attach card a = (.error e, m')) :
    Called p name [.attach card.number card.device a none] m m' := by
  have hheard : card.backend.Hears m.devices _ _ := .attach card.number card.device a m.devices
  rw [attach] at h
  split at h
  · next hr =>
      cases h
      rw [hr] at hheard
      refine called_of_hears hb rfl rfl ?_ hheard
      rw [hr, succeeded_error]
      rfl
  · cases h

theorem called_assignInterrupt (action : Action σ) (hb : p.backend? name = some action.backend)
    (source : UInt32) (m : Machine σ) :
    Called p name [.assignInterrupt action.number source
      (succeeded (m.assignInterrupt action source).1)] m (m.assignInterrupt action source).2 :=
  called_of_hears hb rfl rfl rfl (.assignInterrupt action.number source m.devices)

theorem called_detach (action : Action σ) (hb : p.backend? name = some action.backend)
    (m : Machine σ) : Called p name [.detach action.number] m (m.detach action) :=
  called_of_hears hb rfl rfl rfl (.detach action.number m.devices)

theorem called_release (card : Card σ) (hb : p.backend? name = some card.backend)
    (m : Machine σ) : Called p name [.release card.number card.device] m (m.release card) :=
  called_of_hears hb rfl rfl rfl (.release card.number card.device m.devices)

/-- A job is heard, too, with the host memory as it is then. -/
theorem hears_execute (action : Action σ) (hb : p.backend? name = some action.backend) (job : Job)
    (timeout : Nat) (m : Machine σ) :
    p.Hears name m.devices [.execute action.number job timeout m.memory
      (succeeded (m.execute action job timeout).1)] (m.execute action job timeout).2.2.devices :=
  (Platform.hears_iff hb).2 (Backend.Hears.execute action.number job timeout m.memory m.devices).all

@[simp] theorem files_execute (action : Action σ) (job : Job) (timeout : Nat) (m : Machine σ) :
    (m.execute action job timeout).2.2.files = m.files := rfl

@[simp] theorem events_execute (action : Action σ) (job : Job) (timeout : Nat) (m : Machine σ) :
    (m.execute action job timeout).2.2.events = m.events ++
      [.card action.backend.name (.execute job timeout)
        (succeeded (m.execute action job timeout).1)] := rfl

/-! ### Who holds what -/

/-- The memory is sound, and live are the buffers of one list and those of another. -/
structure Holding (held others : List HostBuffer) (m : Machine σ) : Prop where
  sound : m.memory.Sound
  live : m.memory.live.Perm (held ++ others)

theorem Holding.of_live_eq (h : Holding held others m)
    (hlive : m'.memory.live = m.memory.live) : Holding held others m' :=
  ⟨h.sound.of_live_eq hlive, hlive ▸ h.live⟩

theorem Holding.of_memory_eq (h : Holding held others m) (hmem : m'.memory = m.memory) :
    Holding held others m' :=
  h.of_live_eq (by rw [hmem])

theorem Holding.nodup (h : Holding held others m) : held.Nodup :=
  (List.nodup_append.1 (h.live.nodup_iff.1 h.sound.nodup_live)).1

theorem Holding.mem_live (h : Holding held others m) (hb : b ∈ held) : b ∈ m.memory.live :=
  h.live.mem_iff.2 (List.mem_append_left _ hb)

theorem Holding.perm {held' : List HostBuffer} (h : Holding held others m)
    (hperm : held.Perm held') : Holding held' others m :=
  ⟨h.sound, h.live.trans (hperm.append_right others)⟩

/-- What one of the others holds may be told apart in place of what is held. -/
theorem Holding.swap {held' : List HostBuffer} (h : Holding held (held' ++ others) m) :
    Holding held' (held ++ others) m := by
  refine ⟨h.sound, h.live.trans ?_⟩
  rw [← List.append_assoc, ← List.append_assoc]
  exact List.perm_append_comm.append_right others

/-- What others hold can be counted with what is held. -/
theorem holding_append_iff : Holding (held ++ others) [] m ↔ Holding held others m := by
  constructor
  · intro h
    exact ⟨h.sound, by simpa using h.live⟩
  · intro h
    exact ⟨h.sound, by simpa using h.live⟩

/-- A request for a buffer is refused without a trace, or grants one that is on record. -/
theorem allocate_spec (p : Platform σ) (size : Nat) (m : Machine σ) :
    (∃ fault, m.memory.allocate p.allocator size = .error fault ∧
        m.allocate p size = (.error (.allocating size fault), m)) ∨
      ∃ b memory, m.memory.allocate p.allocator size = .ok (b, memory) ∧
        (m.allocate p size).1 = .ok b ∧ Noted ({ m with memory }.recording (.allocated b))
          (m.allocate p size).2 := by
  rw [allocate]
  cases h : m.memory.allocate p.allocator size with
  | error fault => exact Or.inl ⟨fault, rfl, rfl⟩
  | ok granted => exact Or.inr ⟨granted.1, granted.2, rfl, rfl, noted_note _ _ _ _⟩

theorem eq_of_allocate_error {size : Nat} {e : Error}
    (h : m.allocate p size = (.error e, m')) : m' = m := by
  rcases allocate_spec p size m with ⟨fault, -, heq⟩ | ⟨b, memory, -, hok, -⟩
  · rw [heq] at h
    cases h
    rfl
  · rw [h] at hok
    cases hok

/-- The machine refuses a request exactly when its memory does. -/
theorem allocate_refused_iff (p : Platform σ) (size : Nat) (m : Machine σ) :
    (∃ e m', m.allocate p size = (.error e, m')) ↔
      ∃ fault, m.memory.allocate p.allocator size = .error fault := by
  rcases allocate_spec p size m with ⟨fault, hfault, heq⟩ | ⟨b, memory, hgrant, hok, -⟩
  · exact ⟨fun _ => ⟨fault, hfault⟩, fun _ => ⟨_, _, heq⟩⟩
  · constructor
    · rintro ⟨e, m', h⟩
      rw [h] at hok
      cases hok
    · rintro ⟨fault, hfault⟩
      rw [hgrant] at hfault
      cases hfault

theorem allocate_ok_spec {size : Nat} (h : m.allocate p size = (.ok b, m')) :
    ∃ memory, m.memory.allocate p.allocator size = .ok (b, memory) ∧
      Noted ({ m with memory }.recording (.allocated b)) m' := by
  rcases allocate_spec p size m with ⟨fault, -, heq⟩ | ⟨c, memory, hmem, hok, hnoted⟩
  · rw [heq] at h
    cases h
  · rw [h] at hok hnoted
    cases hok
    exact ⟨memory, hmem, hnoted⟩

/-- A buffer that is granted is held. -/
theorem Holding.grant {A : Allocator} (hA : A.Sound) (h : Holding held others m) {size : Nat}
    {memory : HostMemory} (hok : m.memory.allocate A size = .ok (b, memory)) :
    Holding (b :: held) others ({ m with memory }.recording (.allocated b)) := by
  refine ⟨HostMemory.sound_allocate hA hok h.sound, ?_⟩
  rw [memory_recording, HostMemory.live_allocate hok, List.cons_append]
  exact h.live.cons b

theorem Holding.allocate (hA : p.allocator.Sound) (h : Holding held others m) {size : Nat}
    (hok : m.allocate p size = (.ok b, m')) : Holding (b :: held) others m' := by
  obtain ⟨memory, hmem, hnoted⟩ := allocate_ok_spec hok
  exact (h.grant hA hmem).of_memory_eq hnoted.memory

@[simp] theorem events_free (b : HostBuffer) (m : Machine σ) :
    (m.free b).events = m.events ++ [.freed b] := rfl

/-- A buffer that is freed is held no longer, and the others are. -/
theorem Holding.free (h : Holding (b :: held) others m) : Holding held others (m.free b) :=
  ⟨HostMemory.sound_free b h.sound, HostMemory.live_free_perm h.sound h.live⟩

theorem sound_applyWrites (writes : List (UInt64 × Bytes)) {memory : HostMemory}
    (h : memory.Sound) :
    (applyWrites writes memory).Sound ∧ (applyWrites writes memory).live = memory.live := by
  induction writes generalizing memory with
  | nil => exact ⟨h, rfl⟩
  | cons w writes ih =>
      have hw : (memory.writeIfStaged w.1 w.2).Sound := HostMemory.sound_writeIfStaged h
      obtain ⟨hsound, hlive⟩ := ih hw
      exact ⟨hsound, hlive.trans (HostMemory.live_writeIfStaged h)⟩

/-- Whatever a job writes to host memory, the live buffers stay where they are. -/
theorem Holding.execute (h : Holding held others m) (action : Action σ) (job : Job)
    (timeout : Nat) : Holding held others (m.execute action job timeout).2.2 :=
  h.of_live_eq (sound_applyWrites _ h.sound).2

/-- The owner of a buffer may fill it; that changes no buffer's place. -/
theorem live_fill (h : Holding (b :: held) others m) {d : Bytes} (hd : d.size ≤ b.size) :
    (m.fill b d).memory.live = m.memory.live := by
  have hb : b ∈ m.memory.live := h.live.mem_iff.2 List.mem_cons_self
  refine HostMemory.live_modify ?_
  intro c hc he
  have hcb : c.buffer = b := h.sound.eq_of_addr_eq (HostMemory.mem_live_of_mem hc) hb he
  refine Bytes.size_overwrite ?_
  rw [Nat.zero_add, show c.bytes.size = b.size from congrArg HostBuffer.size hcb]
  exact hd

theorem Holding.fill (h : Holding (b :: held) others m) {d : Bytes} (hd : d.size ≤ b.size) :
    Holding (b :: held) others (m.fill b d) :=
  h.of_live_eq (live_fill h hd)

end Machine

end Offload
