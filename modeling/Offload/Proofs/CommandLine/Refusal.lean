/-
**A name that no address space has ends the reading of the command line.**

Arguments are read from the left, and a value that stands by itself is looked at only when the next
option comes.  Whatever comes then, be it a question, a repetition or what is no option at all, the
value is looked at first; so a wrong one ends the reading, and nothing that follows it can turn that
into anything else.  What stands before it may be any options that are complete, in any form.

Main definitions:

* `CommandLine.Refused` — reading ended because something is wrong;
* `CommandLine.Doomed` — what is pending will be refused;
* `CommandLine.Reads` — where reading stands after some arguments;
* `CommandLine.Clause` — complete options, as they are written;
* `CommandLine.Misnames` — a name that no address space has.

Main results:

* `CommandLine.Doomed.takeAll` — **what is doomed is refused, whatever follows**;
* `CommandLine.reads_clauses` — complete options leave nothing that waits for a value;
* `CommandLine.refused_of_misnamed` — **a wrong name of an address space is refused**.
-/

import Offload.Proofs.CommandLine.Configurations

set_option relaxedAutoImplicit false
set_option autoImplicit false

namespace Offload

namespace CommandLine

open Text (ascii)

variable {α : Type} {p p' : Progress} {inv : Invocation} {o : ValueOption}
  {arg value bytes : Argument} {args args' : List Argument} {P Q : Progress → Prop}

/-! ### What is refused -/

/-- Reading ended because something is wrong. -/
def Refused (r : Except Ending α) : Prop := ∃ e, r = .error (.error e)

/-- A value is taken in or refused. -/
theorem takeValue_cases (inv : Invocation) (o : ValueOption) (value : Argument) :
    Refused (takeValue inv o value) ∨ ∃ inv', takeValue inv o value = .ok inv' := by
  rw [takeValue]
  split
  · exact Or.inl ⟨_, rfl⟩
  · split
    · split
      · exact Or.inl ⟨_, rfl⟩
      · exact Or.inr ⟨_, rfl⟩
    · split
      · exact Or.inl ⟨_, rfl⟩
      · split
        · exact Or.inr ⟨_, rfl⟩
        · exact Or.inl ⟨_, rfl⟩

theorem settle_cases (p : Progress) : Refused (settle p) ∨ ∃ inv, settle p = .ok inv := by
  rw [settle]
  split
  · exact Or.inr ⟨_, rfl⟩
  · exact Or.inl ⟨_, rfl⟩
  · exact takeValue_cases _ _ _

/-- Every option looks at what is pending before anything else. -/
theorem refused_take (h : Refused (settle p)) :
    (∀ o value, Refused (takeAttached p o value)) ∧ (∀ o, Refused (takeOpen p o)) ∧
      (∀ f, Refused (takeFlag p f)) ∧ ∀ i, Refused (takeInquiry p i) := by
  obtain ⟨e, he⟩ := h
  simp only [takeAttached, takeOpen, takeFlag, takeInquiry, he]
  exact ⟨fun _ _ => ⟨e, rfl⟩, fun _ => ⟨e, rfl⟩, fun _ => ⟨e, rfl⟩, fun _ => ⟨e, rfl⟩⟩

theorem refused_takeLong (h : Refused (settle p)) (bytes : Argument) :
    Refused (takeLong p bytes) := by
  obtain ⟨hattached, hopen, hflag, hinquiry⟩ := refused_take h
  rw [takeLong]
  split
  · exact ⟨_, rfl⟩
  · split
    · exact hattached _ _
    · exact hopen _
  · split
    · exact ⟨_, rfl⟩
    · split
      · exact hflag _
      · exact hinquiry _
      · exact hopen _

theorem refused_takeLetters (h : Refused (settle p)) {cs : List (Char × Argument)}
    (hsome : cs ≠ [] ∨ bytes ≠ []) : Refused (takeLetters p cs bytes) := by
  obtain ⟨hattached, hopen, hflag, hinquiry⟩ := refused_take h
  cases cs with
  | nil =>
      cases bytes with
      | nil => exact absurd rfl (hsome.resolve_left (· rfl))
      | cons b rest => exact ⟨_, rfl⟩
  | cons c more =>
      obtain ⟨c, following⟩ := c
      rw [takeLetters]
      split
      · exact ⟨_, rfl⟩
      · split
        · exact hattached _ _
        · exact hopen _
      · next f _ =>
          obtain ⟨e, he⟩ := hflag f
          rw [he]
          exact ⟨e, rfl⟩
      · exact hinquiry _

/-- Some bytes are some letters, or some bytes that are no character. -/
theorem letters_ne (lead : UInt8) (rest : Argument) :
    (letters (lead :: rest)).1 ≠ [] ∨ (letters (lead :: rest)).2 ≠ [] := by
  rw [letters]
  split
  · exact Or.inr (List.cons_ne_nil _ _)
  · exact Or.inl (List.cons_ne_nil _ _)

/-- Whatever an argument is, it is refused if what is pending is. -/
theorem refused_takeArgument (h : Refused (settle p)) (arg : Argument) :
    Refused (takeArgument p arg) := by
  match arg with
  | [] | [_] => exact ⟨_, rfl⟩
  | a :: b :: rest =>
      rw [takeArgument]
      split
      · split
        · exact refused_takeLong h rest
        · exact refused_takeLetters h (letters_ne b rest)
      · exact ⟨_, rfl⟩

/-- What is pending has its value, and will be refused. -/
structure Doomed (p : Progress) : Prop where
  closed : p.Closed
  refused : Refused (settle p)

/-- **What is doomed is refused, whatever follows.** -/
theorem Doomed.takeAll (h : Doomed p) (rest : List Argument) :
    Refused (CommandLine.takeAll p rest) := by
  cases rest with
  | nil => exact h.refused
  | cons arg rest =>
      by_cases harg : arg = [minus, minus]
      · subst harg
        cases rest with
        | nil => exact h.refused
        | cons next rest => exact ⟨_, rfl⟩
      · obtain ⟨e, he⟩ := refused_takeArgument h.refused arg
        rw [takeAll_of_closed h.closed harg, he]
        exact ⟨e, rfl⟩

/-! ### Where reading stands -/

/-- After some arguments, whatever follows them, either something was refused or reading stands at a
progress of some kind. -/
def Reads (p : Progress) (args : List Argument) (P : Progress → Prop) : Prop :=
  ∀ rest, Refused (takeAll p (args ++ rest)) ∨
    ∃ p', P p' ∧ takeAll p (args ++ rest) = takeAll p' rest

theorem Reads.nil (h : P p) : Reads p [] P := fun _ => Or.inr ⟨p, h, rfl⟩

theorem Reads.append (h : Reads p args P) (h' : ∀ p', P p' → Reads p' args' Q) :
    Reads p (args ++ args') Q := by
  intro rest
  rw [List.append_assoc]
  rcases h (args' ++ rest) with hrefused | ⟨p', hp', heq⟩
  · exact Or.inl hrefused
  · rw [heq]
    exact h' p' hp' rest

theorem Reads.mono (h : Reads p args P) (hP : ∀ p', P p' → Q p') : Reads p args Q :=
  fun rest => (h rest).imp_right fun ⟨p', hp', heq⟩ => ⟨p', hP p' hp', heq⟩

/-- Where reading stands after one argument that is an option. -/
theorem Reads.argument (hp : p.Closed) (harg : arg ≠ [minus, minus])
    (h : Refused (takeArgument p arg) ∨ ∃ p', P p' ∧ takeArgument p arg = .ok p') :
    Reads p [arg] P := by
  intro rest
  rw [List.singleton_append, takeAll_of_closed hp harg]
  rcases h with ⟨e, he⟩ | ⟨p', hp', heq⟩
  · rw [he]
    exact Or.inl ⟨e, rfl⟩
  · rw [heq]
    exact Or.inr ⟨p', hp', rfl⟩

/-- Where reading stands after an option and its value, in two arguments. -/
theorem Reads.spaced (hp : p.Closed) (harg : arg ≠ [minus, minus]) (hvalue : isValue value = true)
    (h : Refused (takeArgument p arg) ∨
      ∃ inv, takeArgument p arg = .ok ⟨inv, some ⟨o, none⟩⟩) :
    Reads p [arg, value] fun p' => ∃ inv, p' = ⟨inv, some ⟨o, some value⟩⟩ := by
  have hopen : Reads p [arg] fun p' => ∃ inv, p' = ⟨inv, some ⟨o, none⟩⟩ :=
    .argument hp harg (h.imp_right fun ⟨inv, heq⟩ => ⟨_, ⟨inv, rfl⟩, heq⟩)
  have hgiven (inv : Invocation) : Reads ⟨inv, some ⟨o, none⟩⟩ [value]
      fun p' => ∃ inv, p' = ⟨inv, some ⟨o, some value⟩⟩ :=
    fun rest => Or.inr ⟨_, ⟨inv, rfl⟩, takeAll_value o hvalue rest⟩
  refine hopen.append ?_
  rintro _ ⟨inv, rfl⟩
  exact hgiven inv

/-! ### Complete options -/

/-- The letters of flags. -/
def flagBytes (flags : List Flag) : Argument := flags.map fun f => letterByte (.flag f)

/-- Complete options, as they are written together. -/
inductive Clause where
  /-- A flag by its long name. -/
  | flag (f : Flag)
  /-- A long name, and its value behind an equals sign. -/
  | joined (o : ValueOption) (text : Argument)
  /-- A long name, and its value as the next argument. -/
  | long (o : ValueOption) (text : Argument)
  /-- Flags by their letters. -/
  | flags (first : Flag) (more : List Flag)
  /-- Flags by their letters, if there are any, and a letter with its value directly behind, perhaps
  after an equals sign. -/
  | attached (flags : List Flag) (o : ValueOption) (text : Argument)
  /-- Flags by their letters, if there are any, and a letter with its value as the next argument. -/
  | short (flags : List Flag) (o : ValueOption) (text : Argument)

namespace Clause

/-- The arguments in which the options are written. -/
def arguments : Clause → List Argument
  | flag f => [longArgument (.flag f)]
  | joined o text => [longArgument (.value o) ++ equals :: text]
  | long o text => [longArgument (.value o), text]
  | flags first more => [minus :: flagBytes (first :: more)]
  | attached fs o text => [minus :: (flagBytes fs ++ letterByte (.value o) :: text)]
  | short fs o text => [minus :: (flagBytes fs ++ [letterByte (.value o)]), text]

/-- No value is missing. -/
def Complete : Clause → Prop
  | long _ text | short _ _ text => isValue text = true
  | attached _ _ text => text ≠ []
  | _ => True

/-- The value that is given, and for which option. -/
def value? : Clause → Option (ValueOption × Argument)
  | flag _ | flags .. => none
  | joined o text | long o text | short _ o text => some (o, text)
  | attached _ o text => (attachedValue text).map (o, ·)

/-- Nothing waits for its value after the clause; and to look at what is pending is to take in the
value that the clause gives, if it gives one. -/
structure After (c : Clause) (p : Progress) : Prop where
  closed : p.Closed
  settles : ∀ o value, c.value? = some (o, value) → ∃ inv, settle p = takeValue inv o value

end Clause

theorem closed_none (inv : Invocation) : Progress.Closed ⟨inv, none⟩ := fun _ h => nomatch h

theorem closed_some (inv : Invocation) (o : ValueOption) (value : Argument) :
    Progress.Closed ⟨inv, some ⟨o, some value⟩⟩ := fun _ h => nomatch h

theorem takeFlag_cases (p : Progress) (f : Flag) :
    Refused (takeFlag p f) ∨ ∃ inv, takeFlag p f = .ok ⟨inv, none⟩ := by
  rcases settle_cases p with h | ⟨inv, h⟩
  · exact Or.inl ((refused_take h).2.2.1 f)
  · rw [takeFlag, h]
    simp only
    split
    · exact Or.inl ⟨_, rfl⟩
    · exact Or.inr ⟨_, rfl⟩

theorem takeOpen_cases (p : Progress) (o : ValueOption) :
    Refused (takeOpen p o) ∨ ∃ inv, takeOpen p o = .ok ⟨inv, some ⟨o, none⟩⟩ := by
  rcases settle_cases p with h | ⟨inv, h⟩
  · exact Or.inl ((refused_take h).2.1 o)
  · rw [takeOpen, h]
    exact Or.inr ⟨inv, rfl⟩

theorem takeAttached_cases (p : Progress) (o : ValueOption) (value : Argument) :
    Refused (takeAttached p o value) ∨
      ∃ inv inv', takeValue inv o value = .ok inv' ∧ takeAttached p o value = .ok ⟨inv', none⟩ := by
  rcases settle_cases p with h | ⟨inv, h⟩
  · exact Or.inl ((refused_take h).1 o value)
  · rw [takeAttached, h]
    rcases takeValue_cases inv o value with ⟨e, he⟩ | ⟨inv', hinv'⟩
    · simp only [he]
      exact Or.inl ⟨e, rfl⟩
    · simp only [hinv']
      exact Or.inr ⟨inv, inv', hinv', rfl⟩

/-! ### Letters -/

/-- Takes in the letters behind one minus sign. -/
def takeCluster (p : Progress) (bytes : Argument) : Except Ending Progress :=
  takeLetters p (letters bytes).1 (letters bytes).2

theorem takeCluster_nil (p : Progress) : takeCluster p [] = .ok p := by
  rw [takeCluster, letters, takeLetters]

theorem takeCluster_flag {f : Flag} (h : takeFlag p f = .ok p') (bytes : Argument) :
    takeCluster p (letterByte (.flag f) :: bytes) = takeCluster p' bytes := by
  rw [takeCluster, letters_cons, takeLetters]
  simp only [OptionName.ofLetter?_letter, h, takeCluster]

theorem refused_takeCluster_flag {f : Flag} (h : Refused (takeFlag p f)) (bytes : Argument) :
    Refused (takeCluster p (letterByte (.flag f) :: bytes)) := by
  obtain ⟨e, he⟩ := h
  rw [takeCluster, letters_cons, takeLetters]
  simp only [OptionName.ofLetter?_letter, he]
  exact ⟨e, rfl⟩

theorem takeCluster_attached (h : attachedValue bytes = some value) (p : Progress)
    (o : ValueOption) :
    takeCluster p (letterByte (.value o) :: bytes) = takeAttached p o value := by
  rw [takeCluster, letters_cons, takeLetters]
  simp only [OptionName.ofLetter?_letter, h]

theorem takeCluster_open (p : Progress) (o : ValueOption) :
    takeCluster p [letterByte (.value o)] = takeOpen p o := by
  rw [takeCluster, letters_cons, takeLetters]
  simp only [OptionName.ofLetter?_letter, attachedValue]

/-- The letters of flags leave nothing that waits for its value. -/
theorem takeCluster_flags (hp : p.Closed) (flags : List Flag) (tail : Argument) :
    Refused (takeCluster p (flagBytes flags ++ tail)) ∨
      ∃ p', p'.Closed ∧ takeCluster p (flagBytes flags ++ tail) = takeCluster p' tail := by
  induction flags generalizing p with
  | nil => exact Or.inr ⟨p, hp, rfl⟩
  | cons f flags ih =>
      rw [flagBytes, List.map_cons, List.cons_append]
      rcases takeFlag_cases p f with hrefused | ⟨inv, hinv⟩
      · exact Or.inl (refused_takeCluster_flag hrefused _)
      · rw [takeCluster_flag hinv]
        exact ih (closed_none inv)

theorem takeArgument_cluster (p : Progress) (n : OptionName) (bytes : Argument) :
    takeArgument p (minus :: letterByte n :: bytes) = takeCluster p (letterByte n :: bytes) := by
  rw [takeArgument, if_pos rfl, if_neg (letterByte_ne_minus n), takeCluster]

/-- Letters of flags and of an option with a value start with a letter. -/
theorem exists_letter (flags : List Flag) (o : ValueOption) (bytes : Argument) :
    ∃ n more, flagBytes flags ++ letterByte (.value o) :: bytes = letterByte n :: more := by
  cases flags with
  | nil => exact ⟨_, _, rfl⟩
  | cons f flags => exact ⟨_, _, rfl⟩

/-- The letters of flags, and of an option with a value, come to that option. -/
theorem takeArgument_letters (hp : p.Closed) (flags : List Flag) (o : ValueOption)
    (bytes : Argument) :
    minus :: (flagBytes flags ++ letterByte (.value o) :: bytes) ≠ [minus, minus] ∧
      (Refused (takeArgument p (minus :: (flagBytes flags ++ letterByte (.value o) :: bytes))) ∨
        ∃ p', takeArgument p (minus :: (flagBytes flags ++ letterByte (.value o) :: bytes)) =
          takeCluster p' (letterByte (.value o) :: bytes)) := by
  obtain ⟨n, more, hbytes⟩ := exists_letter flags o bytes
  have hcluster := takeCluster_flags hp flags (letterByte (.value o) :: bytes)
  rw [hbytes] at hcluster ⊢
  refine ⟨?_, ?_⟩
  · simp [letterByte_ne_minus n]
  · rw [takeArgument_cluster]
    exact hcluster.imp_right fun ⟨p', _, heq⟩ => ⟨p', heq⟩

/-! ### Reading complete options -/

/-- **Complete options are refused, or leave nothing that waits for its value.** -/
theorem reads_clause {c : Clause} (hc : c.Complete) (hp : p.Closed) :
    Reads p c.arguments c.After := by
  have hspaced : ∀ o value p', c.value? = some (o, value) →
      (∃ inv, p' = ⟨inv, some ⟨o, some value⟩⟩) → c.After p' := by
    rintro o value _ hvalue ⟨inv, rfl⟩
    refine ⟨closed_some _ _ _, fun o' value' hvalue' => ⟨inv, ?_⟩⟩
    cases hvalue.symm.trans hvalue'
    rfl
  have hattached : ∀ p' o value, c.value? = some (o, value) →
      Refused (takeAttached p' o value) ∨
        ∃ p'', c.After p'' ∧ takeAttached p' o value = .ok p'' := by
    intro p' o value hvalue
    refine (takeAttached_cases p' o value).imp_right ?_
    rintro ⟨inv, inv', htake, heq⟩
    refine ⟨_, ⟨closed_none inv', fun o' value' hvalue' => ⟨inv, ?_⟩⟩, heq⟩
    cases hvalue.symm.trans hvalue'
    exact htake.symm
  cases c with
  | flag f =>
      refine .argument hp (longArgument_ne_end _) ?_
      rw [(takeArgument_flag p f).1]
      refine (takeFlag_cases p f).imp_right ?_
      rintro ⟨inv, heq⟩
      exact ⟨_, ⟨closed_none inv, nofun⟩, heq⟩
  | joined o text =>
      refine .argument hp (longArgument_ne _ _) ?_
      rw [takeArgument_joined]
      exact hattached p o text rfl
  | long o text =>
      refine Reads.mono (.spaced hp (longArgument_ne_end _) hc ?_) fun p' => hspaced o text p' rfl
      rw [(takeArgument_open p o).1]
      exact takeOpen_cases p o
  | flags first more =>
      refine .argument hp ?_ ?_
      · simp [flagBytes, letterByte_ne_minus]
      · have hcluster := takeCluster_flags hp (first :: more) []
        rw [List.append_nil] at hcluster
        rw [flagBytes, List.map_cons, takeArgument_cluster]
        refine hcluster.imp_right ?_
        rintro ⟨p', hp', heq⟩
        exact ⟨p', ⟨hp', nofun⟩, heq.trans (takeCluster_nil p')⟩
  | attached flags o text =>
      obtain ⟨harg, htake⟩ := takeArgument_letters hp flags o text
      refine .argument hp harg ?_
      rcases htake with hrefused | ⟨p', heq⟩
      · exact Or.inl hrefused
      · cases hvalue : attachedValue text with
        | none =>
            cases text with
            | nil => exact absurd rfl hc
            | cons b text =>
                rw [attachedValue] at hvalue
                split at hvalue <;> cases hvalue
        | some value =>
            rw [heq, takeCluster_attached hvalue]
            exact hattached p' o value (by rw [Clause.value?, hvalue, Option.map_some])
  | short flags o text =>
      obtain ⟨harg, htake⟩ := takeArgument_letters hp flags o []
      refine Reads.mono (.spaced hp harg hc ?_) fun p' => hspaced o text p' rfl
      rcases htake with hrefused | ⟨p', heq⟩
      · exact Or.inl hrefused
      · rw [heq, takeCluster_open]
        exact takeOpen_cases p' o

/-- So are any number of them. -/
theorem reads_clauses {cs : List Clause} (hcs : ∀ c ∈ cs, c.Complete) (hp : p.Closed) :
    Reads p (cs.flatMap Clause.arguments) Progress.Closed := by
  induction cs generalizing p with
  | nil => exact .nil hp
  | cons c cs ih =>
      obtain ⟨hc, hmore⟩ := List.forall_mem_cons.1 hcs
      rw [List.flatMap_cons]
      exact (reads_clause hc hp).append fun p' hp' => ih hmore hp'.closed

/-! ### Wrong names -/

/-- The bytes name no address space. -/
def Misnames (value : Argument) : Prop := ∀ space, ¬Names value space

instance (value : Argument) : Decidable (Misnames value) :=
  decidable_of_iff
    (∀ space ∈ [AddressSpace.hostDram, .cardDram, .nvme], value ≠ ascii space.name.toList)
    ⟨fun h space => h space (by cases space <;> decide), fun h space _ => h space⟩

/-- Text that names no address space is read as none. -/
theorem spaceOf_of_misnames (h : Misnames value) {s : String}
    (hs : Text.decodeUtf8? value = some s) : ∃ fault, Invocation.spaceOf s = .error fault := by
  cases hname : AddressSpace.ofName? s with
  | none => exact ⟨_, by rw [Invocation.spaceOf, AddressSpace.parse, hname]⟩
  | some space =>
      obtain rfl := AddressSpace.ofName?_eq_some_iff.1 hname
      have hascii : space.name.toList.all (·.toNat < 128) = true := by cases space <;> decide
      exact absurd (Text.eq_ascii_of_decodeUtf8? (fun c hc =>
        of_decide_eq_true (List.all_eq_true.1 hascii c hc)) hs) (h space)

/-- A value that names no address space is refused where one is to be named. -/
theorem refused_takeValue (ho : o = .sourceSpace ∨ o = .targetSpace) (h : Misnames value)
    (inv : Invocation) : Refused (takeValue inv o value) := by
  rw [takeValue]
  split
  · exact ⟨_, rfl⟩
  · have hpath : ¬Invocation.isPath o = true := by rcases ho with rfl | rfl <;> decide
    rw [if_neg hpath]
    split
    · exact ⟨_, rfl⟩
    · next s hs =>
        obtain ⟨fault, hfault⟩ := spaceOf_of_misnames h hs
        have hread : inv.read o s = .error fault := by
          rcases ho with rfl | rfl <;> simp only [Invocation.read, hfault] <;> rfl
        rw [hread]
        exact ⟨_, rfl⟩

/-- **A wrong name of an address space is refused**, after any complete options and whatever
follows. -/
theorem refused_of_misnamed {before : List Clause} (hbefore : ∀ c ∈ before, c.Complete)
    {c : Clause} (hc : c.Complete) (hvalue : c.value? = some (o, value))
    (ho : o = .sourceSpace ∨ o = .targetSpace) (h : Misnames value) (rest : List Argument) :
    Refused (parse (before.flatMap Clause.arguments ++ c.arguments ++ rest)) := by
  have hread : Reads ⟨.none, none⟩ (before.flatMap Clause.arguments ++ c.arguments) Doomed := by
    refine (reads_clauses hbefore (closed_none _)).append fun p' hp' => ?_
    refine (reads_clause hc hp').mono fun p'' hp'' => ⟨hp''.closed, ?_⟩
    obtain ⟨inv, hsettle⟩ := hp''.settles o value hvalue
    rw [hsettle]
    exact refused_takeValue ho h inv
  rcases hread rest with hrefused | ⟨p', hdoomed, heq⟩
  · exact hrefused
  · rw [parse, heq]
    exact hdoomed.takeAll rest

end CommandLine

end Offload
