/-
**Buffers and clients in one process.**

A process takes buffers of its own, makes clients and calls them, and lets go of both, in any order.
All of them share one host memory.  The memory keeps a register of the live buffers, and a job may
touch a range only if the register says so; here it is shown that the register never says anything
but what the owners of the buffers would say.

Main definitions:

* `Process` — a machine, the buffers and the clients; `Process.held` is every buffer that is owned;
* `Process.Act`, `Process.step`, `Process.run` — what a process may do;
* `Process.Valid` — the buffers that are owned are those that are live.

Main results:

* `Process.valid_step`, `Process.valid_run` — **whatever a process does, the buffers that are owned
  are those that are live**;
* `Process.registry_exact` — **the register holds exactly the owned buffers, and a range is staged
  exactly when one of them holds all of it**.
-/

import Offload.Program
import Offload.Proofs.Client.Phases
import Mathlib.Data.List.Perm.Basic

set_option relaxedAutoImplicit false
set_option autoImplicit false

namespace Offload

open HostBuffer (Apart Placed)
open Machine (Holding)

/-- A machine, the buffers that are taken on it outside of any client, and the clients. -/
structure Process (σ : Type) where
  machine : Machine σ
  buffers : List HostBuffer
  clients : List (Client σ)

namespace Process

variable {σ : Type} {p : Platform σ} {w : Process σ}

/-- What a process may do. -/
inductive Act where
  /-- Takes a buffer of zeros. -/
  | take (size : Nat)
  /-- Puts bytes into one of its buffers, as far as they fit. -/
  | fill (index : Nat) (d : Bytes)
  /-- Lets go of one of its buffers. -/
  | drop (index : Nat)
  | newClient (o : Options)
  /-- Calls one of its clients. -/
  | call (index : Nat) (call : Client.Call)
  /-- Lets go of one of its clients. -/
  | dropClient (index : Nat)

/-- A process in which nothing has happened yet. -/
def start (files : FileTree) (devices : σ) : Process σ :=
  ⟨⟨.empty, files, devices, [], []⟩, [], []⟩

/-- Every buffer that is owned, by the process itself or by one of its clients. -/
def held (w : Process σ) : List HostBuffer := w.buffers ++ w.clients.flatMap Client.buffers

/-- The process after an act; an act on something that does not exist changes nothing. -/
def step (p : Platform σ) (w : Process σ) : Act → Process σ
  | .take size =>
    match w.machine.allocate p size with
    | (.ok b, m) => { w with machine := m, buffers := b :: w.buffers }
    | (.error _, m) => { w with machine := m }
  | .fill i d =>
    match w.buffers[i]? with
    | some b => { w with machine := w.machine.fill b (d.take b.size) }
    | none => w
  | .drop i =>
    match w.buffers[i]? with
    | some b => { w with machine := w.machine.free b, buffers := w.buffers.eraseIdx i }
    | none => w
  | .newClient o => { w with clients := .fresh o :: w.clients }
  | .call i call =>
    match w.clients[i]? with
    | some c =>
      let t := c.answer p w.machine call
      { w with machine := t.2.2, clients := w.clients.set i t.2.1 }
    | none => w
  | .dropClient i =>
    match w.clients[i]? with
    | some c => { w with machine := c.drop w.machine, clients := w.clients.eraseIdx i }
    | none => w

/-- The process after any number of acts. -/
def run (p : Platform σ) (acts : List Act) (w : Process σ) : Process σ := acts.foldl (step p) w

/-- The buffers that are owned are those that are live, and every client is in order. -/
structure Valid (w : Process σ) : Prop where
  holding : Holding w.held [] w.machine
  phases : ∀ c ∈ w.clients, ∃ o, Client.Phase o c

theorem valid_start (files : FileTree) (devices : σ) : (start files devices).Valid :=
  ⟨⟨HostMemory.sound_empty, List.Perm.refl _⟩, by simp [start]⟩

/-! ### One among many -/

theorem perm_eraseIdx {α : Type} {l : List α} {i : Nat} {a : α} (h : l[i]? = some a) :
    l.Perm (a :: l.eraseIdx i) := by
  obtain ⟨hi, rfl⟩ := List.getElem?_eq_some_iff.1 h
  exact (List.getElem_cons_eraseIdx_perm hi).symm

theorem perm_set {α : Type} {l : List α} {i : Nat} {a : α} (h : l[i]? = some a) (b : α) :
    (l.set i b).Perm (b :: l.eraseIdx i) := by
  obtain ⟨hi, -⟩ := List.getElem?_eq_some_iff.1 h
  exact List.set_perm_cons_eraseIdx hi b

/-- Every buffer that is owned, but for those of one client. -/
def besides (i : Nat) (w : Process σ) : List HostBuffer :=
  w.buffers ++ (w.clients.eraseIdx i).flatMap Client.buffers

/-- When the clients are one of them and the rest, so are the buffers. -/
theorem held_perm_of_clients {clients rest : List (Client σ)} {c : Client σ}
    (h : clients.Perm (c :: rest)) (buffers : List HostBuffer) :
    (buffers ++ clients.flatMap Client.buffers).Perm
      (c.buffers ++ (buffers ++ rest.flatMap Client.buffers)) := by
  have hclients := h.flatMap_right Client.buffers
  rw [List.flatMap_cons] at hclients
  calc (buffers ++ clients.flatMap Client.buffers)
      |>.Perm (buffers ++ (c.buffers ++ rest.flatMap Client.buffers)) := hclients.append_left _
    _ |>.Perm (c.buffers ++ (buffers ++ rest.flatMap Client.buffers)) := by
        rw [← List.append_assoc, ← List.append_assoc]
        exact List.perm_append_comm.append_right _

theorem held_perm_buffer {i : Nat} {b : HostBuffer} (h : w.buffers[i]? = some b) :
    w.held.Perm (b :: (w.buffers.eraseIdx i ++ w.clients.flatMap Client.buffers)) :=
  (perm_eraseIdx h).append_right _

/-- The buffers of one client are held, whatever the others own. -/
theorem Valid.holding_client (hw : w.Valid) {i : Nat} {c : Client σ}
    (h : w.clients[i]? = some c) : Holding c.buffers (w.besides i) w.machine :=
  Machine.holding_append_iff.1
    (hw.holding.perm (held_perm_of_clients (perm_eraseIdx h) w.buffers))

/-! ### Acts -/

theorem valid_take (hA : p.allocator.Sound) (hw : w.Valid) (size : Nat) :
    (w.step p (.take size)).Valid := by
  rw [step]
  rcases hgrant : w.machine.allocate p size with ⟨e | b, m⟩
  · rw [Machine.eq_of_allocate_error hgrant]
    exact hw
  · exact ⟨hw.holding.allocate hA hgrant, hw.phases⟩

theorem valid_fill (hw : w.Valid) (i : Nat) (d : Bytes) : (w.step p (.fill i d)).Valid := by
  rw [step]
  cases hb : w.buffers[i]? with
  | none => exact hw
  | some b =>
      have hperm := held_perm_buffer hb
      have hfits : (d.take b.size).size ≤ b.size := by
        rw [Bytes.size_take]
        exact Nat.min_le_left _ _
      exact ⟨((hw.holding.perm hperm).fill hfits).perm hperm.symm, hw.phases⟩

theorem valid_drop (hw : w.Valid) (i : Nat) : (w.step p (.drop i)).Valid := by
  rw [step]
  cases hb : w.buffers[i]? with
  | none => exact hw
  | some b => exact ⟨(hw.holding.perm (held_perm_buffer hb)).free, hw.phases⟩

theorem valid_newClient (hw : w.Valid) (o : Options) : (w.step p (.newClient o)).Valid := by
  refine ⟨hw.holding, ?_⟩
  intro c hc
  rcases List.mem_cons.1 hc with rfl | hc
  · exact ⟨o, Client.phase_fresh o⟩
  · exact hw.phases c hc

/-- **Calling one client keeps the whole process in order**: what the others own is not touched. -/
theorem valid_call (hA : p.allocator.Sound) (hw : w.Valid) (i : Nat) (call : Client.Call) :
    (w.step p (.call i call)).Valid := by
  rw [step]
  cases hc : w.clients[i]? with
  | none => exact hw
  | some c =>
      obtain ⟨o, hphase⟩ := hw.phases c (List.mem_of_getElem? hc)
      -- To the client that is called, what all the others own is just what is live besides.
      obtain ⟨hphase', hholding⟩ := (Client.preserved_holding hA o (w.besides i)).answer
        ⟨hphase, hw.holding_client hc⟩ call
      refine ⟨?_, ?_⟩
      · have hperm := held_perm_of_clients (perm_set hc (c.answer p w.machine call).2.1) w.buffers
        exact (Machine.holding_append_iff.2 hholding).perm hperm.symm
      · intro d hd
        rcases List.mem_or_eq_of_mem_set hd with hd | rfl
        · exact hw.phases d hd
        · exact ⟨o, hphase'⟩

theorem valid_dropClient (hw : w.Valid) (i : Nat) : (w.step p (.dropClient i)).Valid := by
  rw [step]
  cases hc : w.clients[i]? with
  | none => exact hw
  | some c =>
      have hholding : Holding ([] ++ w.besides i) [] (c.teardown w.machine).2 :=
        Machine.holding_append_iff.2 (Client.holding_teardown (hw.holding_client hc))
      refine ⟨hholding, ?_⟩
      intro d hd
      exact hw.phases d (List.mem_of_mem_eraseIdx hd)

/-- **Every act keeps the process in order.** -/
theorem valid_step (hA : p.allocator.Sound) (hw : w.Valid) (act : Act) : (w.step p act).Valid := by
  cases act with
  | take size => exact valid_take hA hw size
  | fill i d => exact valid_fill hw i d
  | drop i => exact valid_drop hw i
  | newClient o => exact valid_newClient hw o
  | call i call => exact valid_call hA hw i call
  | dropClient i => exact valid_dropClient hw i

theorem valid_run (hA : p.allocator.Sound) (hw : w.Valid) (acts : List Act) :
    (w.run p acts).Valid := by
  induction acts generalizing w with
  | nil => exact hw
  | cons act acts ih => exact ih (valid_step hA hw act)

/-! ### The register -/

/-- The buffers that are owned are placed as the allocator promises, and apart. -/
theorem Valid.placed (hw : w.Valid) : (∀ b ∈ w.held, Placed b) ∧ w.held.Pairwise Apart := by
  have hperm : w.machine.memory.live.Perm w.held := by simpa using hw.holding.live
  constructor
  · intro b hb
    exact hw.holding.sound.placed b (hperm.mem_iff.2 hb)
  · exact (hperm.pairwise_iff Apart.symm).1 hw.holding.sound.apart

theorem Valid.mem_live_iff (hw : w.Valid) (b : HostBuffer) :
    b ∈ w.machine.memory.live ↔ b ∈ w.held := by
  have hperm : w.machine.memory.live.Perm w.held := by simpa using hw.holding.live
  exact hperm.mem_iff

/-- **The register of host memory is exact.**  After any acts it holds the place of every buffer
that is owned and nothing else; these buffers are aligned, not empty and apart.  A request for a
buffer that is refused changes nothing.  A range may be touched exactly when it ends inside the
address space and one owned buffer holds all of it, whether it is asked for, read or written. -/
theorem registry_exact (p : Platform σ) (hA : p.allocator.Sound) (files : FileTree) (devices : σ)
    (acts : List Act) :
    let w := (start files devices).run p acts
    let memory := w.machine.memory
    (∀ addr size, memory.registered? addr = some size ↔ ⟨addr, size⟩ ∈ w.held) ∧
      (∀ b ∈ w.held, Placed b) ∧ w.held.Pairwise Apart ∧
      (∀ size, (∃ e m', w.machine.allocate p size = (.error e, m')) ↔
        size = 0 ∨ HostMemory.maxSize < size ∨
          p.allocator.place memory.granted memory.live size = none) ∧
      (∀ size e m', w.machine.allocate p size = (.error e, m') → m' = w.machine) ∧
      ∀ addr len,
        (memory.staged addr len = true ↔
          addr.toNat + len < UInt64.size ∧
            ∃ b ∈ w.held, b.addr.toNat ≤ addr.toNat ∧ addr.toNat + len ≤ b.stop) ∧
        (memory.read? addr len).isSome = memory.staged addr len ∧
        ∀ d, d.size = len → (memory.write? addr d).isSome = memory.staged addr len := by
  intro w memory
  have hw : w.Valid := valid_run hA (valid_start files devices) acts
  have hsound : memory.Sound := hw.holding.sound
  refine ⟨?_, hw.placed.1, hw.placed.2, ?_, ?_, ?_⟩
  · intro addr size
    rw [HostMemory.registered?_eq_some_iff hsound]
    exact hw.mem_live_iff _
  · intro size
    exact (Machine.allocate_refused_iff p size w.machine).trans HostMemory.allocate_eq_error_iff
  · intro size e m' h
    exact Machine.eq_of_allocate_error h
  · intro addr len
    refine ⟨?_, HostMemory.isSome_read? addr len memory, ?_⟩
    · have hmem : ∀ b, b ∈ memory.live ↔ b ∈ w.held := hw.mem_live_iff
      rw [HostMemory.staged_iff_exists hsound]
      simp only [hmem]
    · rintro d rfl
      exact HostMemory.isSome_write? addr d memory

/-- The register after two buffers were taken and the first one was dropped again: its place is
forgotten, and a range of no bytes at the end of the other one is staged still. -/
theorem registry_exact_after_drop :
    Allocator.slots.Sound ∧
      let w := (start .fresh Software.Cards.none).run (Program.platform .slots 0)
        [.take 100, .take 50, .drop 1]
      w.held = [⟨0x202000000000, 50⟩] ∧
        w.machine.memory.registered? 0x202000000000 = some 50 ∧
        w.machine.memory.registered? 0x200000000000 = none ∧
        w.machine.memory.staged 0x202000000032 0 = true := by
  refine ⟨Allocator.sound_slots, ?_⟩
  intro w
  obtain ⟨hregistered, -, -, -, -, hstaged⟩ := registry_exact (Program.platform .slots 0)
    Allocator.sound_slots .fresh Software.Cards.none [.take 100, .take 50, .drop 1]
  have hheld : w.held = [⟨0x202000000000, 50⟩] := by decide +kernel
  have hmem : ⟨0x202000000000, 50⟩ ∈ w.held := hheld ▸ List.mem_singleton_self _
  refine ⟨hheld, (hregistered _ _).2 hmem, ?_, ?_⟩
  · rw [Option.eq_none_iff_forall_ne_some]
    intro size hsize
    have hold : ⟨0x200000000000, size⟩ ∈ w.held := (hregistered _ _).1 hsize
    rw [hheld, List.mem_singleton] at hold
    have haddr : (0x200000000000 : UInt64) = 0x202000000000 := congrArg HostBuffer.addr hold
    exact absurd haddr (by decide)
  · exact (hstaged _ _).1.2 ⟨by decide, _, hmem, by decide, by decide⟩

end Process

end Offload
