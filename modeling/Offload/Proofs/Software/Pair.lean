/-
**Two clients side by side.**

Two clients that take files through the software backend share host memory with its register of live
buffers, the cards and the files, and their calls may be interleaved in any way.  As long as each has
an output file of its own, at which the other never looks, neither can tell that the other is there:
each answers as it does on its own, also where the allocator gives it other addresses then.

The proof goes through the accounts of the two clients.  A call of one client changes its own account
only; so the answers of each client are those of its account, whatever the other one is asked in
between, and this is also what it answers on its own.

Main definitions:

* `Pair`, `Pair.run`, `Pair.answers` — two clients on one machine, and what they answer;
* `Pair.own` — what belongs to one of the two;
* `Pair.Separate` — two tasks that do not get in each other's way;
* `Pair.Described` — two accounts are those of the clients.

Main results:

* `Account.follows_calls` — a client on its own does as its account does;
* `Pair.described_step`, `Pair.described_run` — **each of two clients does as its account does**,
  whatever the other one is asked;
* `Pair.undisturbed` — **two clients do not disturb each other**.
-/

import Offload.Program
import Offload.Proofs.Software.Following

set_option relaxedAutoImplicit false
set_option autoImplicit false

namespace Offload

open Client (Answer afterCalls)
open Machine (Holding)

/-! ### A client on its own -/

/-- What a client answers to calls, one after the other. -/
def Client.answers {σ : Type} (p : Platform σ) :
    List Client.Call → Client σ → Machine σ → List (Except Error Answer)
  | [], _, _ => []
  | call :: calls, c, m =>
    (c.answer p m call).1 ::
      answers p calls (c.answer p m call).2.1 (c.answer p m call).2.2

namespace Account

/-- What an account answers, one act after the other. -/
def answers (task : Task) (place : Location) (t : FileTree) :
    List Task.Act → Account → List (Except Error Answer)
  | [], _ => []
  | act :: acts, s =>
    (s.answer task place t act).1 :: answers task place t acts (s.answer task place t act).2

/-- The account after any number of acts. -/
def after (task : Task) (place : Location) (t : FileTree) (acts : List Task.Act) (s : Account) :
    Account :=
  acts.foldl (fun s act => (s.answer task place t act).2) s

variable {p : Platform Software.Cards} {task : Task} {place : Location} {t : FileTree}
  {s : Account} {c : Client Software.Cards} {m : Machine Software.Cards} {others : List HostBuffer}

/-- **A client on its own does as its account does**, call after call. -/
theorem follows_calls (hA : p.allocator.Sound) (hp : Software.Registered p)
    (htarget : FileTree.Target task.target place t) (h : s.Describes task place t c m)
    (hheld : Holding c.buffers others m) (acts : List Task.Act)
    (hroom : ∀ r ∈ c.answers p (acts.map Task.Act.call) m, ¬exhausted r) :
    c.answers p (acts.map Task.Act.call) m = s.answers task place t acts ∧
      (s.after task place t acts).Describes task place t
        (afterCalls p (acts.map Task.Act.call) c m).1
        (afterCalls p (acts.map Task.Act.call) c m).2 := by
  induction acts generalizing s c m with
  | nil => exact ⟨rfl, h⟩
  | cons act acts ih =>
      rw [List.map_cons, Client.answers] at hroom ⊢
      have hfollows := follows_answer hA hp htarget h hheld act (hroom _ List.mem_cons_self)
      have hheld' := (Client.preserved_holding hA task.options others).answer
        ⟨h.phase, hheld⟩ act.call
      obtain ⟨hanswers, hafter⟩ := ih hfollows.describes hheld'.2
        fun r hr => hroom r (List.mem_cons_of_mem _ hr)
      exact ⟨congrArg₂ List.cons hfollows.answer hanswers, hafter⟩

end Account

/-! ### Two clients -/

/-- Two clients on one machine. -/
structure Pair (σ : Type) where
  machine : Machine σ
  client : Bool → Client σ

namespace Pair

/-- Two clients that have done nothing yet. -/
def start {σ : Type} (task : Bool → Task) (m : Machine σ) : Pair σ :=
  ⟨m, fun i => .fresh (task i).options⟩

/-- What the client whose turn it is answers. -/
def answer {σ : Type} (p : Platform σ) (w : Pair σ) (turn : Bool × Task.Act) :
    Except Error Answer :=
  ((w.client turn.1).answer p w.machine turn.2.call).1

/-- The pair after the client whose turn it is was asked. -/
def step {σ : Type} (p : Platform σ) (w : Pair σ) (turn : Bool × Task.Act) : Pair σ :=
  let t := (w.client turn.1).answer p w.machine turn.2.call
  ⟨t.2.2, Function.update w.client turn.1 t.2.1⟩

/-- The pair after any number of turns. -/
def run {σ : Type} (p : Platform σ) (turns : List (Bool × Task.Act)) (w : Pair σ) : Pair σ :=
  turns.foldl (step p) w

/-- What is answered, turn after turn, and by whom. -/
def answers {σ : Type} (p : Platform σ) :
    List (Bool × Task.Act) → Pair σ → List (Bool × Except Error Answer)
  | [], _ => []
  | turn :: turns, w => (turn.1, w.answer p turn) :: answers p turns (w.step p turn)

/-- What belongs to one of the two clients. -/
def own {α : Type} (i : Bool) : List (Bool × α) → List α
  | [] => []
  | x :: rest => if x.1 = i then x.2 :: own i rest else own i rest

/-- Two tasks do not get in each other's way: each has a place for its output file, and the other
one looks at this place neither for its input nor for its output. -/
structure Separate (task : Bool → Task) (place : Bool → Location) (t : FileTree) : Prop where
  target : ∀ i, FileTree.Target (task i).target (place i) t
  unseen_source : ∀ i, place i ∉ t.seen false (task !i).source
  unseen_target : ∀ i, place i ∉ t.seen true (task !i).target

variable {p q : Platform Software.Cards} {task : Bool → Task} {place : Bool → Location}
  {t : FileTree} {s : Bool → Account} {w : Pair Software.Cards} {others : List HostBuffer}

/-- The places of the two output files differ. -/
theorem Separate.place_ne (h : Separate task place t) (i : Bool) : place (!i) ≠ place i := by
  obtain ⟨-, -, hseen, -, -⟩ := (h.target !i).leads rfl rfl (fun _ _ _ => rfl) id true
  exact ne_of_mem_of_not_mem hseen (h.unseen_target i)

/-- Two accounts are those of the clients, and besides their buffers there are those of others. -/
structure Described (task : Bool → Task) (place : Bool → Location) (t : FileTree)
    (others : List HostBuffer) (s : Bool → Account) (w : Pair Software.Cards) : Prop where
  describes : ∀ i, (s i).Describes (task i) (place i) t (w.client i) w.machine
  holding : ∀ i, Holding (w.client i).buffers ((w.client !i).buffers ++ others) w.machine

theorem described_start {m : Machine Software.Cards} (h : Separate task place m.files)
    (hm : m.memory.Sound) :
    Described task place m.files m.memory.live
      (fun i => .fresh (task i).options (m.files.entryAt? (place i))) (start task m) where
  describes i := Account.describes_fresh (h.target i)
  holding _ := ⟨hm, List.Perm.refl _⟩

/-- **A turn of one client is a turn of its account**, and leaves the other one as it is. -/
theorem described_step (hA : p.allocator.Sound) (hp : Software.Registered p)
    (hsep : Separate task place t) (h : Described task place t others s w)
    (turn : Bool × Task.Act) (hroom : ¬exhausted (w.answer p turn)) :
    w.answer p turn = ((s turn.1).answer (task turn.1) (place turn.1) t turn.2).1 ∧
      Described task place t others
        (Function.update s turn.1 ((s turn.1).answer (task turn.1) (place turn.1) t turn.2).2)
        (w.step p turn) := by
  obtain ⟨i, act⟩ := turn
  have hfollows := Account.follows_answer hA hp (hsep.target i) (h.describes i) (h.holding i) act
    hroom
  obtain ⟨-, hheld⟩ := (Client.preserved_holding hA (task i).options _).answer
    ⟨(h.describes i).phase, h.holding i⟩ act.call
  have hother : (w.step p (i, act)).client (!i) = w.client (!i) :=
    Function.update_of_ne (Bool.not_ne_self i) _ _
  have hself : (w.step p (i, act)).client i =
      ((w.client i).answer p w.machine act.call).2.1 :=
    Function.update_self i _ _
  refine ⟨hfollows.answer, ?_, ?_⟩
  · intro j
    by_cases hj : j = i
    · subst hj
      rw [hself, Function.update_self]
      exact hfollows.describes
    · obtain rfl : j = !i := Bool.eq_not_of_ne hj
      rw [hother, Function.update_of_ne hj]
      -- To the other client this was somebody else's business.
      have hspares := hfollows.spares.mono fun b hb => List.mem_append_left others hb
      exact (h.describes !i).of_spares hspares (hsep.place_ne i) (hsep.unseen_source i)
        (hsep.unseen_target i)
  · intro j
    by_cases hj : j = i
    · subst hj
      rw [hself, hother]
      exact hheld
    · obtain rfl : j = !i := Bool.eq_not_of_ne hj
      rw [hother, Bool.not_not, hself]
      exact hheld.swap

/-- What is done in a turn is done in the account of the one whose turn it is. -/
theorem after_own (turn : Bool × Task.Act) (turns : List (Bool × Task.Act)) (i : Bool) :
    (Function.update s turn.1
        ((s turn.1).answer (task turn.1) (place turn.1) t turn.2).2 i).after (task i) (place i) t
          (own i turns) =
      (s i).after (task i) (place i) t (own i (turn :: turns)) := by
  by_cases hi : turn.1 = i
  · subst hi
    rw [Function.update_self, own, if_pos rfl]
    rfl
  · rw [Function.update_of_ne (Ne.symm hi), own, if_neg hi]

/-- **Each of two clients does as its account does**, whatever the other one is asked. -/
theorem described_run (hA : p.allocator.Sound) (hp : Software.Registered p)
    (hsep : Separate task place t) (h : Described task place t others s w)
    (turns : List (Bool × Task.Act)) (hroom : ∀ r ∈ w.answers p turns, ¬exhausted r.2) :
    (∀ i, own i (w.answers p turns) = (s i).answers (task i) (place i) t (own i turns)) ∧
      Described task place t others (fun i => (s i).after (task i) (place i) t (own i turns))
        (w.run p turns) := by
  induction turns generalizing s w with
  | nil => exact ⟨fun _ => rfl, h⟩
  | cons turn turns ih =>
      rw [answers] at hroom
      obtain ⟨hanswer, hstep⟩ := described_step hA hp hsep h turn (hroom _ List.mem_cons_self)
      obtain ⟨hanswers, hrun⟩ := ih hstep fun r hr => hroom r (List.mem_cons_of_mem _ hr)
      simp only [after_own] at hrun
      refine ⟨fun i => ?_, hrun⟩
      have hrest := hanswers i
      by_cases hi : turn.1 = i
      · subst hi
        rw [Function.update_self] at hrest
        rw [answers, own, if_pos rfl, own, if_pos rfl, hrest, hanswer]
        rfl
      · rw [Function.update_of_ne (Ne.symm hi)] at hrest
        rw [answers, own, if_neg hi, own, if_neg hi, hrest]

/-! ### What is left in the end -/

/-- When both clients have let go of everything, the register is the one from before. -/
theorem registered?_of_closed {m : Machine Software.Cards} (hm : m.memory.Sound)
    (h : Described task place t m.memory.live s w)
    (hclosed : ∀ i, (w.client i).stage = .tornDown ∨ (w.client i).stage = .failed)
    (addr : UInt64) : w.machine.memory.registered? addr = m.memory.registered? addr := by
  have hnone : ∀ i, (w.client i).buffers = [] := by
    intro i
    obtain ⟨-, -, hinput, houtput⟩ := (h.describes i).phase.of_closed (hclosed i)
    rw [Client.buffers, hinput, houtput]
    rfl
  have hheld := h.holding false
  rw [hnone, hnone] at hheld
  exact HostMemory.registered?_congr hm hheld.sound hheld.live addr

/-- When both clients are dropped, the register is the one from before, whatever they held. -/
theorem registered?_of_dropped {m : Machine Software.Cards} (hm : m.memory.Sound)
    (h : Described task place t m.memory.live s w) (addr : UInt64) :
    ((w.client true).drop ((w.client false).drop w.machine)).memory.registered? addr =
      m.memory.registered? addr := by
  have hother : Holding (w.client true).buffers ([] ++ m.memory.live)
      ((w.client false).drop w.machine) :=
    (Client.holding_teardown (h.holding false)).swap
  have hnone := Client.holding_teardown hother
  exact HostMemory.registered?_congr hm hnone.sound hnone.live addr

/-- **Two clients do not disturb each other.**  Each of them takes a file to another one through the
software backend, and neither looks at the place of the other one's output file.  Then, in whatever
order they are asked, each answers as it does when it is asked the same on its own, on another
machine with the same files and with other places for its buffers; and its stage, the size of its
data, the return code of its job and its output file are the same.  A client that stops after a step
that failed is one that is asked nothing more.  When both have let go of everything the register of
live buffers is the one from before, and so it is when both are dropped earlier. -/
theorem undisturbed {m n : Machine Software.Cards} (hA : p.allocator.Sound)
    (hB : q.allocator.Sound) (hp : Software.Registered p) (hq : Software.Registered q)
    (hm : m.memory.Sound) (hn : n.memory.Sound) (hfiles : n.files = m.files)
    (hsep : Separate task place m.files) (turns : List (Bool × Task.Act)) (i : Bool)
    (hroom : ∀ r ∈ (start task m).answers p turns, ¬exhausted r.2)
    (hroom' : ∀ r ∈ (Client.fresh (task i).options).answers q
      ((own i turns).map Task.Act.call) n, ¬exhausted r) :
    let both := (start task m).run p turns
    let alone := afterCalls q ((own i turns).map Task.Act.call) (.fresh (task i).options) n
    (own i ((start task m).answers p turns) =
        (Client.fresh (task i).options).answers q ((own i turns).map Task.Act.call) n ∧
      (both.client i).stage = alone.1.stage ∧
      (both.client i).params.size = alone.1.params.size ∧
      (both.client i).job.map Job.retc = alone.1.job.map Job.retc ∧
      both.machine.files.fileAt? (task i).target = alone.2.files.fileAt? (task i).target) ∧
    ((∀ j, (both.client j).stage = .tornDown ∨ (both.client j).stage = .failed) →
      ∀ addr, both.machine.memory.registered? addr = m.memory.registered? addr) ∧
    ∀ addr, ((both.client true).drop ((both.client false).drop both.machine)).memory.registered?
      addr = m.memory.registered? addr := by
  intro both alone
  obtain ⟨hanswers, hboth⟩ := described_run hA hp hsep (described_start hsep hm) turns hroom
  have hstart : (Account.fresh (task i).options (m.files.entryAt? (place i))).Describes (task i)
      (place i) m.files (.fresh (task i).options) n :=
    hfiles ▸ Account.describes_fresh (hfiles ▸ hsep.target i)
  have hheld : Holding [] n.memory.live n := ⟨hn, List.Perm.refl _⟩
  obtain ⟨halone, hafter⟩ :=
    Account.follows_calls hB hq (hsep.target i) hstart hheld (own i turns) hroom'
  have hi := hboth.describes i
  refine ⟨⟨(hanswers i).trans halone.symm, hi.stage.trans hafter.stage.symm,
    hi.size.trans hafter.size.symm, hi.retc.trans hafter.retc.symm,
    hafter.sees.fileAt?_eq hi.sees (hsep.target i)⟩, ?_, ?_⟩
  · exact registered?_of_closed hm hboth
  · exact registered?_of_dropped hm hboth

/-- Two clients in turns, one of which gives its buffers back while the other one is at work: the
buffers of the second one are elsewhere than when it is on its own. -/
theorem undisturbed_program :
    let files : FileTree :=
      { entries := [([[97]], .file (.ofList [65, 98])), ([[99]], .file (.ofList [120]))]
        workDir := [] }
    let o := Options.standard Device.software
    let task : Bool → Task := fun i =>
      if i then ⟨{ o with input := some ⟨[99]⟩, output := some ⟨[100]⟩ }, _, _, rfl, rfl, rfl⟩
      else ⟨{ o with input := some ⟨[97]⟩, output := some ⟨[98]⟩, verify := true }, _, _,
        rfl, rfl, rfl⟩
    let p := Program.platform .slots 0
    let turns : List (Bool × Task.Act) :=
      [(false, .step .stageInput), (true, .step .stageInput), (false, .teardown),
        (true, .step .stageOutput), (true, .step .acquireSession), (true, .step .execute),
        (true, .step .writeOutput), (true, .step .checkReturnCode), (true, .teardown)]
    let both := (start task (Program.start files)).run p turns
    own true ((start task (Program.start files)).answers p turns) =
        (Client.fresh (task true).options).answers p ((own true turns).map Task.Act.call)
          (Program.start files) ∧
      (both.machine.files.fileAt? ⟨[100]⟩).map Bytes.toList = some [88] ∧
      ∀ addr, both.machine.memory.registered? addr = none := by
  intro files o task p turns both
  have hsep : Separate task (fun i => if i then [[100]] else [[98]]) files := by
    refine ⟨?_, ?_, ?_⟩
    · rintro (- | -)
      · exact ⟨none, rfl, trivial⟩
      · exact ⟨none, rfl, trivial⟩
    · decide +kernel
    · decide +kernel
  obtain ⟨⟨hanswers, -⟩, hclosed, -⟩ := undisturbed (p := p) (q := p)
    (m := Program.start files) (n := Program.start files) Allocator.sound_slots
    Allocator.sound_slots ⟨_, rfl, rfl⟩ ⟨_, rfl, rfl⟩ HostMemory.sound_empty
    HostMemory.sound_empty rfl hsep turns true (by decide +kernel) (by decide +kernel)
  refine ⟨hanswers, by decide +kernel, fun addr => ?_⟩
  exact (hclosed (by decide +kernel) addr).trans rfl

end Pair

end Offload
