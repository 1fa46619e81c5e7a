import ClassLink.Proofs.Hierarchy
import Mathlib.Data.List.Find

/-!
# Directories

A link that succeeds ends with entering the class in the directory of its domain; no other domain is
written. So the directory of a domain lists classes that were linked, and the two classes that a
domain remembers, the root and the class of class objects, are the first of their kinds in it
(`Store.Directs`).
-/

namespace ClassLink

/-! ### Entering a class -/

/-- The domain with one class more in its directory. -/
def Domain.enter (x : Domain) (k : Class) (c : ClassRef) : Domain :=
  { x with
    rootClass := if k.kind = .root then x.rootClass.or (some c) else x.rootClass
    classOfClasses :=
      if k.kind = .ofClasses then x.classOfClasses.or (some c) else x.classOfClasses
    directory := x.directory.add k.key c }

section
variable (d : DomainRef) (c : ClassRef) (s : Store)

/-- A class is entered, and perhaps logged. -/
theorem announceClass_run : ∃ log, (announceClass d c).run s =
    ((), { s.modifyDomain d (·.enter (s.classAt c) c) with log := log }) := by
  unfold announceClass
  rw [run_bind, run_bind, get_run]
  simp only
  split <;> exact ⟨_, rfl⟩

theorem domain_announceClass (x : DomainRef) :
    ((announceClass d c).run s).2.domain x =
      if d = x ∧ x.index < s.domains.size then (s.domain x).enter (s.classAt c) c
      else s.domain x := by
  obtain ⟨log, run⟩ := announceClass_run d c s
  rw [run]
  exact Store.domain_modifyDomain ..

theorem objects_announceClass : ((announceClass d c).run s).2.objects = s.objects := by
  obtain ⟨log, run⟩ := announceClass_run d c s
  rw [run]
  rfl

/-- Sharing members writes properties and counts. -/
theorem confined_shareClassMembers (b : Bindings) :
    Confined { Footprint.none with filled := Set.univ, domains := {d} } s
      ((shareClassMembers d c b).run s).2 := by
  rw [shareClassMembers_run]
  cases s.sharing? d c b with
  | none => exact .refl _ s
  | some r => exact confined_applyTo r.1 r.2 .append trivial rfl

end

namespace LinkStages

variable {d : DomainRef} {descriptor : ClassDescriptor} {base : Option ClassRef} {scope : Scope}
  {s t : Store} {c : ClassRef} {x : LinkTrace}

/-- A linked class is entered in the directory of its domain. -/
theorem domain (h : LinkStages d descriptor base scope s t c x) (lt : d.index < s.domains.size) :
    t.domain d = { (s.domain d).enter (t.classAt c) c with
      diagnostics := (t.domain d).diagnostics
      stats := (t.domain d).stats } := by
  have shared := confined_shareClassMembers d c x.bound x.instances
  have bound := h.confined_bound lt
  have same : ((shareClassMembers d c x.instances).run x.bound).2.classAt c = t.classAt c := by
    rw [Store.classAt, Store.classAt, h.announced.classes,
      (Announced.shareClassMembers d c x.bound x.instances).classes]
  have entered :=
    domain_announceClass d c ((shareClassMembers d c x.instances).run x.bound).2 d
  rw [if_pos ⟨rfl, shared.domains_eq ▸ bound.domains_eq ▸ lt⟩, ← h.ending, same] at entered
  rw [entered, shared.settings d, bound.settings d]
  rfl

/-- No other domain is written. -/
theorem domain_ne (h : LinkStages d descriptor base scope s t c x) (lt : d.index < s.domains.size)
    {y : DomainRef} (ne : y ≠ d) : t.domain y = s.domain y := by
  rw [h.ending, domain_announceClass, if_neg fun e => ne e.1.symm,
    (confined_shareClassMembers d c x.bound x.instances).domain y ne]
  exact (h.confined_bound lt).domain y ne

end LinkStages

/-! ### The classes of a domain -/

namespace Directory

/-- Every key leads to the place of a class. -/
def Sound (x : Directory) : Prop := ∀ p ∈ x.places, p.2 < x.classes.length

variable {x : Directory} {key : String} {c : ClassRef}

theorem mem_of_find? (found : x.find? key = some c) : c ∈ x.classes := by
  obtain ⟨i, _, place⟩ := Option.bind_eq_some_iff.mp found
  exact List.mem_of_getElem? place

theorem Sound.add (h : x.Sound) (key : String) (c : ClassRef) : (x.add key c).Sound := by
  intro p hp
  have longer : (x.add key c).classes.length = x.classes.length + 1 := List.length_append
  rw [longer]
  rcases List.mem_cons.mp hp with rfl | old
  · exact Nat.lt_succ_self _
  · exact (h p old).trans (Nat.lt_succ_self _)

/-- A class that is added is found under its key, and nothing else is found otherwise. -/
theorem Sound.find?_add (h : x.Sound) (key : String) (c : ClassRef) (name : String) :
    (x.add key c).find? name = if name = key then some c else x.find? name := by
  unfold find? Directory.add
  rw [List.lookup_cons]
  split_ifs with same
  · subst same
    simp
  · rw [beq_eq_false_iff_ne.mpr same]
    cases place : x.places.lookup name with
    | none => rfl
    | some i =>
      obtain ⟨before, after, split, _⟩ := List.lookup_eq_some_iff.mp place
      have inside : i < x.classes.length := h (name, i) (by rw [split]; simp)
      exact List.getElem?_append_left inside

end Directory

/-- The domain has linked nothing. -/
structure Domain.Unused (x : Domain) : Prop where
  directory : x.directory = .empty
  rootClass : x.rootClass = none
  classOfClasses : x.classOfClasses = none

theorem Domain.unused_fresh (options : Options) (synthesizer : Synthesizer) (global : ObjectRef) :
    (Domain.fresh options synthesizer global).Unused :=
  ⟨rfl, rfl, rfl⟩

/-- The directory of a domain lists linked classes and finds each of them in its place, and the
domain remembers the first root and the first class of class objects among them. -/
structure Store.Directs (s : Store) (cs : List ClassRef) (d : DomainRef) : Prop where
  linked : ∀ c ∈ (s.domain d).directory.classes, c ∈ cs
  places : (s.domain d).directory.Sound
  rootClass : (s.domain d).rootClass =
    (s.domain d).directory.classes.find? fun c => (s.classAt c).kind = .root
  classOfClasses : (s.domain d).classOfClasses =
    (s.domain d).directory.classes.find? fun c => (s.classAt c).kind = .ofClasses

namespace Store.Directs

variable {s t : Store} {cs ds : List ClassRef} {d : DomainRef} {c : ClassRef}

/-- A class that a domain remembers is linked. -/
theorem rootClass_linked (h : s.Directs cs d) (remembered : (s.domain d).rootClass = some c) :
    c ∈ cs :=
  h.linked c (List.mem_of_find?_eq_some (h.rootClass ▸ remembered))

theorem classOfClasses_linked (h : s.Directs cs d)
    (remembered : (s.domain d).classOfClasses = some c) : c ∈ cs :=
  h.linked c (List.mem_of_find?_eq_some (h.classOfClasses ▸ remembered))

/-- A domain that has linked nothing remembers nothing. -/
theorem of_unused (h : (s.domain d).Unused) : s.Directs cs d := by
  refine ⟨?_, ?_, ?_, ?_⟩
  · rw [h.directory]
    exact fun _ hc => absurd hc List.not_mem_nil
  · rw [h.directory]
    exact fun _ hp => absurd hp List.not_mem_nil
  · rw [h.directory, h.rootClass]
    rfl
  · rw [h.directory, h.classOfClasses]
    rfl

/-- What is first of a kind depends on the kinds of the classes that are listed. -/
theorem find?_kind (h : s.Directs cs d)
    (kinds : ∀ c ∈ cs, (t.classAt c).kind = (s.classAt c).kind) (kind : ClassKind) :
    (s.domain d).directory.classes.find? (fun c => (t.classAt c).kind = kind) =
      (s.domain d).directory.classes.find? fun c => (s.classAt c).kind = kind := by
  refine List.find?_congr fun c hc => ?_
  rw [kinds c (h.linked c hc)]

/-- A domain that is written in its diagnostics and counts only. -/
theorem keeps (h : s.Directs cs d) (kinds : ∀ c ∈ cs, (t.classAt c).kind = (s.classAt c).kind)
    (same : t.domain d = { s.domain d with
      diagnostics := (t.domain d).diagnostics
      stats := (t.domain d).stats })
    (sub : ∀ c ∈ cs, c ∈ ds) : t.Directs ds d := by
  refine ⟨?_, ?_, ?_, ?_⟩ <;> rw [same]
  · exact fun c hc => sub c (h.linked c hc)
  · exact h.places
  · exact h.rootClass.trans (h.find?_kind kinds .root).symm
  · exact h.classOfClasses.trans (h.find?_kind kinds .ofClasses).symm

/-- A domain that has linked one class more. -/
theorem enter (h : s.Directs cs d) (kinds : ∀ c ∈ cs, (t.classAt c).kind = (s.classAt c).kind)
    (entered : t.domain d = { (s.domain d).enter (t.classAt c) c with
      diagnostics := (t.domain d).diagnostics
      stats := (t.domain d).stats }) : t.Directs (c :: cs) d := by
  have root := h.find?_kind kinds .root
  have ofClasses := h.find?_kind kinds .ofClasses
  rw [← h.rootClass] at root
  rw [← h.classOfClasses] at ofClasses
  refine ⟨?_, ?_, ?_, ?_⟩ <;> rw [entered] <;> dsimp only [Domain.enter]
  · intro k hk
    rcases List.mem_append.mp hk with old | new
    · exact List.mem_cons_of_mem _ (h.linked k old)
    · exact List.mem_singleton.mp new ▸ List.mem_cons_self
  · exact h.places.add _ _
  · rw [Directory.add, List.find?_append, root]
    split_ifs with kind <;> simp [kind]
  · rw [Directory.add, List.find?_append, ofClasses]
    split_ifs with kind <;> simp [kind]

end Store.Directs

/-- The kinds of linked classes do not change. -/
theorem Hierarchy.kinds {s t : Store} {cs : List ClassRef} (h : Hierarchy s cs) (keeps : s.Keeps t) :
    ∀ c ∈ cs, (t.classAt c).kind = (s.classAt c).kind := by
  intro c hc
  rw [keeps.classAt c (h.inside hc)]

/-- A new domain comes after the others. -/
theorem domain_newDomain (options : Options) (synthesizer : Synthesizer) (s : Store)
    (x : DomainRef) :
    ((newDomain options synthesizer).run s).2.domain x =
      if x.index = s.domains.size then .fresh options synthesizer ⟨s.objects.size⟩
      else s.domain x :=
  Store.getD_push ..

/-- In a store reached by linking every domain has its directory in order. -/
theorem Linking.directs {s : Store} {cs : List ClassRef} (h : Linking s cs) (d : DomainRef) :
    s.Directs cs d := by
  induction h with
  | start natives => exact .of_unused ⟨rfl, rfl, rfl⟩
  | @domain s cs options synthesizer h ih =>
    have opened := domain_newDomain options synthesizer s d
    by_cases last : d.index = s.domains.size
    · rw [if_pos last] at opened
      exact .of_unused (opened ▸ Domain.unused_fresh ..)
    · rw [if_neg last] at opened
      exact ih.keeps (h.hierarchy.kinds (keeps_newDomain options synthesizer s)) (by rw [opened])
        fun _ hk => hk
  | @register s t cs definition h run ih =>
    obtain ⟨natives, log, rfl⟩ := store_registerNative run
    exact ih.keeps (h.hierarchy.kinds (keeps_registerNative run)) rfl fun _ hk => hk
  | @linked s t cs d' descriptor base scope c h lt old run ih =>
    obtain ⟨x, stages⟩ := linkStages_of_link lt run
    have kinds := h.hierarchy.kinds (stages.keeps lt)
    by_cases same : d = d'
    · subst same
      exact ih.enter kinds (stages.domain lt)
    · refine ih.keeps kinds ?_ fun k hk => List.mem_cons_of_mem _ hk
      rw [stages.domain_ne lt same]
  | @failed s t cs d' descriptor base scope e h lt old run ih =>
    exact ih.keeps (h.hierarchy.kinds (keeps_of_failed_link lt run))
      ((confined_of_failed_link lt run).settings d) fun _ hk => hk

end ClassLink
