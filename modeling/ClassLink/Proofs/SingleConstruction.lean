import ClassLink.Proofs.Retrying

/-!
# A class is constructed once

Three operations fill in the parts of a class. They may be called in any order and as often as one
likes, and creating may fail when it has filled in some parts already. None is ever written again:
each operation first looks at the parts that it would fill in, and fails or warns if they are there.

A history is a list of such calls, on any classes. A class is constructed by one of them at most,
and accepts one constructor at most, or none if its host brought one along
(`constructsOnce_of_calls`). That follows from what a single call does (`ClassEvent.lawful`), since
a call that constructs the class finds it unwired and leaves it wired.
-/

namespace ClassLink

/-! ### What one operation does -/

/-- The parts that construction fills in keep what they have. -/
structure Class.KeepsParts (k l : Class) : Prop where
  /-- Base, strategy, template and delegate. -/
  wiring : ∀ w, k.wiring = some w → l.wiring = some w
  constructor : ∀ f, k.constructor = some f → l.constructor = some f
  constructorNoInit : ∀ f, k.constructorNoInit = some f → l.constructorNoInit = some f

theorem Class.KeepsParts.refl (k : Class) : k.KeepsParts k :=
  ⟨fun _ h => h, fun _ h => h, fun _ h => h⟩

theorem Class.KeepsParts.trans {k l m : Class} (h : k.KeepsParts l) (i : l.KeepsParts m) :
    k.KeepsParts m where
  wiring w hw := i.wiring w (h.wiring w hw)
  constructor f hf := i.constructor f (h.constructor f hf)
  constructorNoInit f hf := i.constructorNoInit f (h.constructorNoInit f hf)

/-- One diagnostic is added to those of the domain: a constructor was offered to the class and is
not used. -/
structure Store.Warned (s t : Store) (d : DomainRef) (c : ClassRef) : Prop where
  added : t.domain d = { s.domain d with
    diagnostics := (s.domain d).diagnostics ++ [.warning (s.className c) .ignoredConstructor] }
  others : ∀ x, x ≠ d → t.domain x = s.domain x
  size : t.domains.size = s.domains.size

variable {s t u : Store} {d : DomainRef} {c : ClassRef} {base : Option ClassRef}
  {offered : FunctionRef}

theorem Store.warned_emit (lt : d.index < s.domains.size) (c : ClassRef) :
    s.Warned ((emit d (.warning (s.className c) .ignoredConstructor)).run s).2 d c where
  added := domain_emit lt _
  others x ne := (confined_emit (p := { Footprint.none with domains := {d} }) rfl _).domain x ne
  size := Store.size_modifyDomain ..

theorem domains_configure (c : ClassRef) (base : Option ClassRef) (s : Store) :
    (exec (configure c base) s).2.domains = s.domains := by
  rw [exec_configure]
  split
  · rfl
  rcases fixedTemplate? s (s.classAt c) with e | (_ | template)
  · rfl
  · rcases delegateParent? s (s.classAt c) base with e | parent
    · rfl
    · show ((buildTemplates (s.classAt c) base parent).run s).2.domains = s.domains
      rw [buildTemplates_run]
      cases (s.classAt c).hostTemplate? s <;> rfl
  · rfl

/-- Finishing a class marks it, whether it succeeds or not, and says nothing. -/
theorem finishClass_keeps (c : ClassRef) (f : FunctionRef) (w : Wiring) (s : Store) :
    (exec (finishClass c f w) s).2.classes = (s.settled c f).classes ∧
      (exec (finishClass c f w) s).2.domains = s.domains := by
  rw [exec_finishClass, exec_setTemplate]
  split_ifs <;> exact ⟨rfl, rfl⟩

/-- A class is offered a constructor. If it has its own, a warning says that the other is not used.
Of the classes no other one is written. -/
structure Store.Offers (s t : Store) (d : DomainRef) (c : ClassRef) : Prop where
  others : ∀ x, x ≠ c → t.classAt x = s.classAt x
  size : t.classes.size = s.classes.size
  silent : (s.classAt c).constructor = none → t.domains = s.domains
  warned : (s.classAt c).constructor.isSome → s.Warned t d c

theorem offers_setConstructor (lt : d.index < s.domains.size) (c : ClassRef) (f : FunctionRef) :
    s.Offers ((setConstructor d c f).run s).2 d c := by
  rw [setConstructor_run]
  cases own : (s.classAt c).constructor with
  | none =>
    refine ⟨fun x ne => ?_, Store.size_modifyClass .., fun _ => rfl, fun some => ?_⟩
    · rw [Store.classAt_modifyClass, if_neg fun same => ne same.1.symm]
    · rw [own] at some
      cases some
  | some g =>
    refine ⟨fun _ _ => rfl, rfl, fun none => ?_, fun _ => Store.warned_emit lt c⟩
    cases own.symm.trans none

theorem Store.Offers.domains_size (h : s.Offers t d c) : t.domains.size = s.domains.size := by
  cases own : (s.classAt c).constructor with
  | none => rw [h.silent own]
  | some f => exact (h.warned (by rw [own]; rfl)).size

/-- The offer is one to a class that is configured for it first, and finished then. -/
theorem Store.Offers.widen {v : Store} {w : Wiring} (h : u.Offers v d c)
    (before : Configured s u c base w) (domains : u.domains = s.domains) (f : FunctionRef)
    (classes : t.classes = (v.settled c f).classes) (after : t.domains = v.domains) :
    s.Offers t d c := by
  have own : (u.classAt c).constructor = (s.classAt c).constructor := by rw [before.classAt]
  have name : u.className c = s.className c := by rw [Store.className, before.classAt]; rfl
  have domain : ∀ x, u.domain x = s.domain x ∧ t.domain x = v.domain x := fun x => by
    simp only [Store.domain, domains, after, and_self]
  refine ⟨fun x ne => ?_, ?_, fun bare => ?_, fun has => ?_⟩
  · calc t.classAt x = (v.settled c f).classAt x := by simp only [Store.classAt, classes]
      _ = v.classAt x := (v.classAt_modifyClass c x _).trans (if_neg fun same => ne same.1.symm)
      _ = u.classAt x := h.others x ne
      _ = s.classAt x := before.others x ne
  · calc t.classes.size = (v.settled c f).classes.size := by rw [classes]
      _ = v.classes.size := Store.size_modifyClass ..
      _ = u.classes.size := h.size
      _ = s.classes.size := before.size
  · rw [after, h.silent (own.trans bare), domains]
  · obtain ⟨added, others, size⟩ := h.warned (own ▸ has)
    refine ⟨?_, fun x ne => ?_, by rw [after, size, domains]⟩
    · rw [(domain d).2, added, (domain d).1, name]
    · rw [(domain x).2, others x ne, (domain x).1]

/-- A class that was neither wired nor finished is both, with its own constructor or else the one it
is offered. -/
structure Store.Settles (s t : Store) (d : DomainRef) (c : ClassRef) (offered : FunctionRef) : Prop
    extends s.Offers t d c where
  unwired : (s.classAt c).wiring = none
  unset : (s.classAt c).constructorNoInit = none
  classAt : ∃ w, t.classAt c = { s.classAt c with
    wiring := some w
    constructor := some ((s.classAt c).constructor.getD offered)
    constructorNoInit := some ((s.classAt c).constructor.getD offered) }

/-- Creating writes nothing and fails, or settles the class. It succeeds then if the class had a
constructor. -/
theorem settles_create (lt : d.index < s.domains.size) (inside : c.index < s.classes.size)
    (base : Option ClassRef) (offered : FunctionRef) :
    (∃ e, exec (create d c base offered) s = (.error e, s)) ∨
      s.Settles (exec (create d c base offered) s).2 d c offered ∧
        ((s.classAt c).constructor.isSome → (exec (create d c base offered) s).1 = .ok ()) := by
  rcases create_cases inside d base offered with failed | ⟨u, w, unset, run, configured⟩
  · exact .inl failed
  have domains := domains_configure c base s
  rw [run] at domains
  have inside' : c.index < u.classes.size := configured.size ▸ inside
  refine .inr ⟨?_, fun own => ?_⟩
  · obtain ⟨classAt, _⟩ := setConstructor_settled d c offered inside'
    have offers := offers_setConstructor (domains ▸ lt) c offered
    rw [exec_create_of_configured inside unset run configured]
    generalize ((setConstructor d c offered).run u).2 = v at classAt offers
    obtain ⟨classes, after⟩ := finishClass_keeps c ((s.classAt c).constructor.getD offered) w v
    refine ⟨offers.widen configured domains _ classes after, configured.unwired, unset, w, ?_⟩
    rw [Store.classAt, classes]
    refine (Store.classAt_settled _ (offers.size ▸ inside')).trans ?_
    rw [classAt, configured.classAt]
  · have fits : (s.classAt c).constructor = none → (s.function offered).templateWritable = true :=
      fun bare => by rw [bare] at own; cases own
    obtain ⟨t, ok⟩ := create_ok_of_configured inside unset run configured fits
    rw [ok]

/-! ### Calls -/

/-- A call to one of the operations. -/
inductive ClassCall where
  | configure (c : ClassRef) (base : Option ClassRef)
  | create (d : DomainRef) (c : ClassRef) (base : Option ClassRef) (offered : FunctionRef)
  | setConstructor (d : DomainRef) (c : ClassRef) (f : FunctionRef)
deriving DecidableEq, Repr

namespace ClassCall

/-- The class that is called. -/
def target : ClassCall → ClassRef
  | configure c _ => c
  | create _ c _ _ => c
  | setConstructor _ c _ => c

/-- The domain that the diagnostics of the call are kept in. -/
def domain? : ClassCall → Option DomainRef
  | configure .. => none
  | create d .. => some d
  | setConstructor d .. => some d

/-- The class and the domain of the call are in the store. -/
def Inside (s : Store) : ClassCall → Prop
  | configure c _ => c.index < s.classes.size
  | create d c _ _ => d.index < s.domains.size ∧ c.index < s.classes.size
  | setConstructor d c _ => d.index < s.domains.size ∧ c.index < s.classes.size

/-- The answer: whether it does not fail, or whether the constructor is accepted. -/
def answer (s : Store) : ClassCall → Bool
  | configure c base => (exec (ClassLink.configure c base) s).1.isOk
  | create d c base offered => (exec (ClassLink.create d c base offered) s).1.isOk
  | setConstructor d c f => ((ClassLink.setConstructor d c f).run s).1

/-- The store that it leaves. -/
def after (s : Store) : ClassCall → Store
  | configure c base => (exec (ClassLink.configure c base) s).2
  | create d c base offered => (exec (ClassLink.create d c base offered) s).2
  | setConstructor d c f => ((ClassLink.setConstructor d c f).run s).2

end ClassCall

/-- A call in a history, with the store in which it is made. -/
structure ClassEvent where
  call : ClassCall
  before : Store

namespace ClassEvent

variable (e : ClassEvent)

/-- The answer of the call. -/
def answer : Bool := e.call.answer e.before

/-- The store that the call leaves. -/
def after : Store := e.call.after e.before

/-- The class is configured or created. -/
def constructs (c : ClassRef) : Bool :=
  e.call.target = c && match e.call with
    | .configure .. | .create .. => e.answer
    | .setConstructor .. => false

/-- The class accepts a constructor, be it one that it is offered while it is created. -/
def accepts (c : ClassRef) : Bool :=
  e.call.target = c && match e.call with
    | .configure .. => false
    | .create .. =>
      (e.before.classAt c).constructor.isNone && (e.after.classAt c).constructor.isSome
    | .setConstructor .. => e.answer

/-- The class does not accept the constructor that it is offered. It keeps its own then, also when
it is created with it. -/
def refuses (c : ClassRef) : Bool :=
  e.call.target = c && match e.call with
    | .configure .. => false
    | .create .. => e.answer && (e.before.classAt c).constructor.isSome
    | .setConstructor .. => !e.answer

/-- What a call does to a class and what it says. -/
structure Lawful (c : ClassRef) : Prop where
  keeps : (e.before.classAt c).KeepsParts (e.after.classAt c)
  constructs : e.constructs c → (e.before.classAt c).wiring = none ∧
    (e.after.classAt c).wiring.isSome
  accepts : e.accepts c → (e.before.classAt c).constructor = none ∧
    (e.after.classAt c).constructor.isSome
  /-- A constructor is accepted exactly by a class that has none. -/
  answer : ∀ d f, e.call = .setConstructor d c f →
    (e.answer = true ↔ (e.before.classAt c).constructor = none)
  refused : ∀ d, e.call.domain? = some d → e.refuses c → e.before.Warned e.after d c
  silent : e.call.target = c → e.refuses c = false → e.after.domains = e.before.domains
  failed : ∀ base, e.call = .configure c base → e.answer = false → e.after = e.before

end ClassEvent

/-! ### What a call does -/

/-- A call writes no other class, and makes none. -/
theorem ClassCall.classAt_after {k : ClassCall} (inside : k.Inside s) :
    (∀ x, x ≠ k.target → (k.after s).classAt x = s.classAt x) ∧
      (k.after s).classes.size = s.classes.size ∧ (k.after s).domains.size = s.domains.size := by
  cases k with
  | configure c base =>
    rw [after]
    have domains := congrArg Array.size (domains_configure c base s)
    rcases configure_cases inside base with ⟨e, run⟩ | ⟨u, w, run, configured⟩ <;>
      rw [run] at domains ⊢
    · exact ⟨fun _ _ => rfl, rfl, rfl⟩
    · exact ⟨configured.others, configured.size, domains⟩
  | create d c base offered =>
    rw [after]
    rcases settles_create inside.1 inside.2 base offered with ⟨e, run⟩ | ⟨settles, _⟩
    · rw [run]
      exact ⟨fun _ _ => rfl, rfl, rfl⟩
    · exact ⟨settles.others, settles.size, settles.toOffers.domains_size⟩
  | setConstructor d c f =>
    have offers := offers_setConstructor inside.1 c f
    exact ⟨offers.others, offers.size, offers.domains_size⟩

namespace ClassEvent

theorem lawful_of_ne {e : ClassEvent} (ne : e.call.target ≠ c)
    (same : e.after.classAt c = e.before.classAt c) : e.Lawful c := by
  refine ⟨by rw [same]; exact .refl _, ?_, ?_, fun d f call => ?_, fun d _ => ?_,
    fun target => absurd target ne, fun base call => ?_⟩
  · simp [constructs, ne]
  · simp [accepts, ne]
  · exact absurd (by rw [call]; rfl) ne
  · simp [refuses, ne]
  · exact absurd (by rw [call]; rfl) ne

/-- Configuring or creating that fails and writes nothing. -/
theorem lawful_of_failed {e : ClassEvent} (call : ∀ d x f, e.call ≠ .setConstructor d x f)
    (answer : e.answer = false) (after : e.after = e.before) : e.Lawful c := by
  refine ⟨by rw [after]; exact .refl _, ?_, ?_, fun d f offer => absurd offer (call d c f),
    fun d _ => ?_, fun _ _ => by rw [after], fun _ _ _ => after⟩
  all_goals
    obtain ⟨k, s⟩ := e
    cases k with
    | setConstructor d x f => exact absurd rfl (call d x f)
    | configure | create => simp_all [constructs, accepts, refuses]

theorem lawful_configure (inside : c.index < s.classes.size) (base : Option ClassRef) :
    Lawful ⟨.configure c base, s⟩ c := by
  rcases configure_cases inside base with ⟨e, run⟩ | ⟨u, w, run, configured⟩
  · refine lawful_of_failed nofun ?_ ?_
    · rw [answer, ClassCall.answer, run]
      rfl
    · rw [after, ClassCall.after, run]
  · have after : after ⟨.configure c base, s⟩ = u := by rw [ClassEvent.after, ClassCall.after, run]
    refine ⟨?_, fun _ => ⟨configured.unwired, ?_⟩, ?_, nofun, nofun,
      fun _ _ => domains_configure c base s, ?_⟩
    · rw [after, configured.classAt]
      refine ⟨fun w hw => ?_, fun _ h => h, fun _ h => h⟩
      cases configured.unwired.symm.trans hw
    · rw [after, configured.classAt]
      rfl
    · simp [accepts]
    · intro base _ failed
      rw [answer, ClassCall.answer, run] at failed
      cases failed

theorem lawful_create (lt : d.index < s.domains.size) (inside : c.index < s.classes.size)
    (base : Option ClassRef) (offered : FunctionRef) :
    Lawful ⟨.create d c base offered, s⟩ c := by
  rcases settles_create lt inside base offered with ⟨e, run⟩ | ⟨settles, ok⟩
  · refine lawful_of_failed nofun ?_ ?_
    · rw [answer, ClassCall.answer, run]
      rfl
    · rw [after, ClassCall.after, run]
  · obtain ⟨w, classAt⟩ := settles.classAt
    have after : (after ⟨.create d c base offered, s⟩).classAt c = _ := classAt
    refine ⟨?_, fun _ => ⟨settles.unwired, by rw [after]; rfl⟩, fun h => ?_, nofun, ?_, ?_, nofun⟩
    · rw [after]
      refine ⟨fun w hw => ?_, fun f hf => ?_, fun f hf => ?_⟩
      · cases settles.unwired.symm.trans hw
      · rw [hf]
        rfl
      · cases settles.unset.symm.trans hf
    · refine ⟨?_, by rw [after]; rfl⟩
      simp only [accepts, Bool.and_eq_true, Option.isNone_iff_eq_none] at h
      exact h.2.1
    · rintro _ ⟨⟩ refuses
      simp only [ClassEvent.refuses, Bool.and_eq_true] at refuses
      exact settles.warned refuses.2.2
    · intro _ silent
      refine settles.silent ?_
      by_contra own
      have own : (s.classAt c).constructor.isSome := Option.isSome_iff_ne_none.mpr own
      have succeeds : answer ⟨.create d c base offered, s⟩ = true := by
        rw [answer, ClassCall.answer, ok own]
        rfl
      simp [ClassEvent.refuses, ClassCall.target, succeeds, own] at silent

theorem lawful_setConstructor (lt : d.index < s.domains.size) (inside : c.index < s.classes.size)
    (f : FunctionRef) : Lawful ⟨.setConstructor d c f, s⟩ c := by
  have offers := offers_setConstructor lt c f
  have after : (after ⟨.setConstructor d c f, s⟩).classAt c = _ :=
    (setConstructor_settled d c f inside).1
  have accepted : answer ⟨.setConstructor d c f, s⟩ = (s.classAt c).constructor.isNone := by
    rw [answer, ClassCall.answer, setConstructor_run]
    cases (s.classAt c).constructor <;> rfl
  refine ⟨?_, by simp [constructs], fun h => ?_, ?_, ?_, ?_, nofun⟩
  · rw [after]
    refine ⟨fun _ h => h, fun g hg => ?_, fun _ h => h⟩
    rw [hg]
    rfl
  · refine ⟨?_, by rw [after]; rfl⟩
    simp only [accepts, accepted, Bool.and_eq_true, Option.isNone_iff_eq_none] at h
    exact h.2
  · rintro _ _ ⟨⟩
    rw [accepted, Option.isNone_iff_eq_none]
  · rintro _ ⟨⟩ refuses
    refine offers.warned ?_
    simpa [ClassEvent.refuses, ClassCall.target, accepted] using refuses
  · intro _ silent
    refine offers.silent ?_
    simpa [ClassEvent.refuses, ClassCall.target, accepted] using silent

/-- What a call does to any class. -/
theorem lawful (e : ClassEvent) (inside : e.call.Inside e.before) (c : ClassRef) : e.Lawful c := by
  by_cases same : e.call.target = c
  · obtain ⟨call, s⟩ := e
    subst same
    cases call with
    | configure c base => exact lawful_configure inside base
    | create d c base offered => exact lawful_create inside.1 inside.2 base offered
    | setConstructor d c f => exact lawful_setConstructor inside.1 inside.2 f
  · exact lawful_of_ne same ((ClassCall.classAt_after inside).1 c fun h => same h.symm)

end ClassEvent

/-! ### Histories -/

/-- Calls that are made one after the other. -/
def events : List ClassCall → Store → List ClassEvent
  | [], _ => []
  | k :: ks, s => ⟨k, s⟩ :: events ks (k.after s)

/-- The stores of a history, from the one it starts in to the one it leaves. -/
def stores : List ClassCall → Store → List Store
  | [], s => [s]
  | k :: ks, s => s :: stores ks (k.after s)

/-- A class in a history of calls: it is constructed at most once, it accepts one constructor at
most, and the parts that it has in one store it has in all later ones. -/
structure Store.ConstructsOnce (s : Store) (calls : List ClassCall) (c : ClassRef) : Prop where
  lawful : ∀ e ∈ events calls s, e.Lawful c
  keeps : (stores calls s).Pairwise fun t u => (t.classAt c).KeepsParts (u.classAt c)
  constructed : (events calls s).countP (·.constructs c) ≤ 1
  accepted : (events calls s).countP (·.accepts c) ≤ 1
  /-- A class over a host constructor accepts no other. -/
  host : (s.classAt c).constructor.isSome → (events calls s).countP (·.accepts c) = 0

variable {calls : List ClassCall}

theorem ClassCall.Inside.later {k : ClassCall} (h : k.Inside s)
    (classes : t.classes.size = s.classes.size) (domains : t.domains.size = s.domains.size) :
    k.Inside t := by
  cases k <;> simpa only [Inside, classes, domains] using h

theorem lawful_of_mem (inside : ∀ k ∈ calls, k.Inside s) (c : ClassRef) :
    ∀ e ∈ events calls s, e.Lawful c := by
  induction calls generalizing s with
  | nil => exact fun _ he => absurd he List.not_mem_nil
  | cons k ks ih =>
    have first := inside k List.mem_cons_self
    obtain ⟨_, classes, domains⟩ := ClassCall.classAt_after first
    intro e he
    rcases List.mem_cons.mp he with rfl | later
    · exact ClassEvent.lawful _ first c
    · exact ih (fun x hx => (inside x (List.mem_cons_of_mem k hx)).later classes domains) e later

/-- What calls that keep the parts of a class lead to has them. -/
theorem keepsParts_of_mem (h : ∀ e ∈ events calls s, e.Lawful c) :
    ∀ t ∈ stores calls s, (s.classAt c).KeepsParts (t.classAt c) := by
  induction calls generalizing s with
  | nil =>
    intro t ht
    rw [List.mem_singleton.mp ht]
    exact .refl _
  | cons k ks ih =>
    intro t ht
    rcases List.mem_cons.mp ht with rfl | later
    · exact .refl _
    · have first := (h _ List.mem_cons_self).keeps
      exact first.trans (ih (fun e he => h e (List.mem_cons_of_mem _ he)) t later)

theorem pairwise_keepsParts (h : ∀ e ∈ events calls s, e.Lawful c) :
    (stores calls s).Pairwise fun t u => (t.classAt c).KeepsParts (u.classAt c) := by
  induction calls generalizing s with
  | nil => exact List.pairwise_singleton ..
  | cons k ks ih =>
    have later := fun e he => h e (List.mem_cons_of_mem _ he)
    have first := (h _ List.mem_cons_self).keeps
    exact List.pairwise_cons.mpr ⟨fun t ht => first.trans (keepsParts_of_mem later t ht), ih later⟩

/-- What needs a part to be missing, and fills it in, is done at most once, and not at all if the
part is there from the start. -/
theorem countP_events_le_one {p : ClassEvent → Bool} (filled : Store → Prop)
    (fills : ∀ e ∈ events calls s, p e → ¬filled e.before ∧ filled e.after)
    (keeps : ∀ e ∈ events calls s, filled e.before → filled e.after) :
    (events calls s).countP p ≤ 1 ∧ (filled s → (events calls s).countP p = 0) := by
  induction calls generalizing s with
  | nil => exact ⟨Nat.zero_le 1, fun _ => rfl⟩
  | cons k ks ih =>
    obtain ⟨rest, none⟩ := ih (fun e he => fills e (List.mem_cons_of_mem _ he))
      fun e he => keeps e (List.mem_cons_of_mem _ he)
    rw [events, List.countP_cons]
    split
    · rename_i now
      obtain ⟨missing, filled⟩ := fills _ List.mem_cons_self now
      rw [none filled]
      exact ⟨le_rfl, fun before => absurd before missing⟩
    · exact ⟨rest, fun before => none (keeps _ List.mem_cons_self before)⟩

/-- **A class is constructed once**, whichever calls are made and whatever they are given. -/
theorem constructsOnce_of_calls (inside : ∀ k ∈ calls, k.Inside s) (c : ClassRef) :
    s.ConstructsOnce calls c := by
  have lawful := lawful_of_mem inside c
  obtain ⟨constructed, _⟩ := countP_events_le_one (p := (·.constructs c))
    (fun t => (t.classAt c).wiring.isSome)
    (fun e he h => by
      obtain ⟨unwired, wired⟩ := (lawful e he).constructs h
      exact ⟨by rw [unwired]; nofun, wired⟩)
    fun e he h => by
      obtain ⟨w, hw⟩ := Option.isSome_iff_exists.mp h
      exact Option.isSome_iff_exists.mpr ⟨w, (lawful e he).keeps.wiring w hw⟩
  obtain ⟨accepted, host⟩ := countP_events_le_one (p := (·.accepts c))
    (fun t => (t.classAt c).constructor.isSome)
    (fun e he h => by
      obtain ⟨bare, settled⟩ := (lawful e he).accepts h
      exact ⟨by rw [bare]; nofun, settled⟩)
    fun e he h => by
      obtain ⟨f, hf⟩ := Option.isSome_iff_exists.mp h
      exact Option.isSome_iff_exists.mpr ⟨f, (lawful e he).keeps.constructor f hf⟩
  exact ⟨lawful, pairwise_keepsParts lawful, constructed, accepted, host⟩

namespace Sample

/-- A class without constructor is offered the same one twice, configured twice and created. -/
def attempts : List ClassCall :=
  [.setConstructor ⟨0⟩ ⟨0⟩ ⟨0⟩, .setConstructor ⟨0⟩ ⟨0⟩ ⟨0⟩, .configure ⟨0⟩ none,
    .configure ⟨0⟩ none, .create ⟨0⟩ ⟨0⟩ none ⟨0⟩]

end Sample

/-- Of these calls the first offer is accepted and the first configuration succeeds. -/
theorem constructsOnce_of_calls_attempts :
    (∀ k ∈ Sample.attempts, k.Inside Sample.offering) ∧
      (events Sample.attempts Sample.offering).map (·.answer) = [true, false, true, false, false] ∧
      Sample.offering.ConstructsOnce Sample.attempts ⟨0⟩ := by
  have classes : 0 < Sample.offering.classes.size := by decide +kernel
  have domains : 0 < Sample.offering.domains.size := by decide +kernel
  have inside : ∀ k ∈ Sample.attempts, k.Inside Sample.offering := by
    simp only [Sample.attempts, List.forall_mem_cons, ClassCall.Inside]
    simp [classes, domains]
  exact ⟨inside, by decide +kernel, constructsOnce_of_calls inside ⟨0⟩⟩

end ClassLink
