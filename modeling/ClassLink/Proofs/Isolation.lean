import ClassLink.Proofs.Agreement

/-!
# Isolation

A link that succeeds writes its new class, and beyond that the domain it links in and at most one
object: the class object of the root, which gains the members that class objects share when their
class is linked after it. Until members are shared everything that is written is new
(`LinkStages.confined_bound`), so what is left is to say which object they are shared with
(`LinkStages.sharing?_eq`): in a store reached by linking it is either the class object of the new
class or that of a root which was linked before.
-/

namespace ClassLink

namespace LinkStages

variable {d : DomainRef} {descriptor : ClassDescriptor} {base : Option ClassRef} {scope : Scope}
  {s t : Store} {c : ClassRef} {x : LinkTrace}

/-- Once its members are bound, a class is what it will be. -/
theorem classAt_bound (h : LinkStages d descriptor base scope s t c x) (k : ClassRef) :
    x.bound.classAt k = t.classAt k := by
  rw [Store.classAt, Store.classAt, h.announced.classes]

/-- Properties are last written when members are shared. -/
theorem properties_eq (h : LinkStages d descriptor base scope s t c x) (o : ObjectRef) :
    t.properties o = ((shareClassMembers d c x.instances).run x.bound).2.properties o := by
  rw [h.ending, Store.properties, Store.object, objects_announceClass]
  rfl

/-- Sharing extends the properties of every object, if the keys of all are listed. -/
theorem extends_bound (h : LinkStages d descriptor base scope s t c x) (agrees : s.Agrees)
    (o : ObjectRef) : (x.bound.properties o).Extends (t.properties o) := by
  rw [h.properties_eq, shareClassMembers_run]
  cases x.bound.sharing? d c x.instances with
  | none => exact .refl _
  | some r => exact r.1.extends_applyTo d r.2 x.bound (h.agrees_bound agrees o)

/-- A link extends the properties of every object. -/
theorem gains (h : LinkStages d descriptor base scope s t c x) (lt : d.index < s.domains.size)
    (agrees : s.Agrees) (o : ObjectRef) : (s.properties o).Extends (t.properties o) :=
  ((h.confined_bound lt).extends_of_beyond (h.agrees_bound agrees o)).trans
    (h.extends_bound agrees o)

/-- An object that members are not shared with keeps its properties. -/
theorem properties_of_not_shared (h : LinkStages d descriptor base scope s t c x)
    (lt : d.index < s.domains.size) {o : ObjectRef} (inside : o.index < s.objects.size)
    (apart : ∀ b r, x.bound.sharing? d c x.instances = some (b, r) → r ≠ o) :
    t.properties o = s.properties o := by
  refine Eq.trans ?_ ((h.confined_bound lt).properties o inside inside.not_ge)
  rw [h.properties_eq, shareClassMembers_run]
  rcases shared : x.bound.sharing? d c x.instances with _ | ⟨b, r⟩
  · rfl
  · exact (b.properties_applyTo ..).trans (if_neg fun same => apart b r shared same.1)

/-- What a link in a store reached by linking shares, and with which class object. -/
theorem sharing?_eq (h : LinkStages d descriptor base scope s t c x)
    (lt : d.index < s.domains.size) {cs : List ClassRef} (linking : Linking s cs) :
    x.bound.sharing? d c x.instances =
      if (t.classAt c).kind = .ofClasses then
        (s.domain d).rootClass.map fun root => (x.instances, (s.classAt root).object)
      else
        ((s.domain d).classOfClasses.bind fun m => (s.classAt m).instanceBindings).map
          fun shared => (shared, (t.classAt c).object) := by
  have bound := h.confined_bound lt
  have directs := linking.directs d
  have kept : ∀ k ∈ cs, x.bound.classAt k = s.classAt k := fun k hk =>
    bound.keeps_of_beyond.classAt k (linking.hierarchy.inside hk)
  have root : (x.bound.domain d).rootClass = (s.domain d).rootClass := by rw [bound.settings d]
  have ofClasses : (x.bound.domain d).classOfClasses = (s.domain d).classOfClasses := by
    rw [bound.settings d]
  rw [Store.sharing?, h.classAt_bound c, root, ofClasses]
  congr 1
  · cases remembered : (s.domain d).rootClass with
    | none => rfl
    | some r => rw [Option.map_some, Option.map_some, kept r (directs.rootClass_linked remembered)]
  · cases remembered : (s.domain d).classOfClasses with
    | none => rfl
    | some m =>
      rw [Option.bind_some, Option.bind_some, kept m (directs.classOfClasses_linked remembered)]

end LinkStages

/-- A class that gives its members to the class objects gives them to this object, the class object
of the root. -/
def Store.GivesTo (s t : Store) (d : DomainRef) (c : ClassRef) (o : ObjectRef) : Prop :=
  (t.classAt c).kind = .ofClasses ∧
    ∃ root, (s.domain d).rootClass = some root ∧ (s.classAt root).object = o

/-- Linking a class of a domain leaves everything else as it was. -/
structure Store.Spares (s t : Store) (d : DomainRef) (c : ClassRef) : Prop extends s.Keeps t where
  new : s.classes.size ≤ c.index
  properties : ∀ o : ObjectRef, o.index < s.objects.size → ¬s.GivesTo t d c o →
    t.properties o = s.properties o
  /-- The class object of the root gains properties under further keys at most. -/
  gains : ∀ o, (s.properties o).Extends (t.properties o)
  domain : ∀ x, x ≠ d → t.domain x = s.domain x

/-- **Linking writes to the new class.** In a store reached by linking, a link that succeeds leaves
every object, function and class and every other domain as it was, except that the class object of
the root may gain members if the new class is the class of class objects. -/
theorem spares_of_linking {s t : Store} {cs : List ClassRef} (h : Linking s cs) {d : DomainRef}
    {descriptor : ClassDescriptor} {base : Option ClassRef} {scope : Scope} {c : ClassRef}
    (lt : d.index < s.domains.size) (run : exec (link d descriptor base scope) s = (.ok c, t)) :
    s.Spares t d c := by
  obtain ⟨x, stages⟩ := linkStages_of_link lt run
  refine ⟨stages.keeps lt, stages.begun.prepared.le, fun o inside apart => ?_,
    stages.gains lt h.agrees, fun _ => stages.domain_ne lt⟩
  refine stages.properties_of_not_shared lt inside fun b r shared => ?_
  rw [stages.sharing?_eq lt h] at shared
  split at shared
  · rename_i ofClasses
    obtain ⟨root, remembered, same⟩ := Option.map_eq_some_iff.mp shared
    rintro rfl
    exact apart ⟨ofClasses, root, remembered, (Prod.mk.inj same).2⟩
  · obtain ⟨_, _, same⟩ := Option.map_eq_some_iff.mp shared
    rintro rfl
    refine absurd inside (not_lt.mpr ?_)
    rw [← (Prod.mk.inj same).2, stages.classAt lt, stages.created.classAt]
    exact stages.begun.prepared.parts.object.1

/-! ### A root and the class of class objects -/

namespace Sample

/-- A store with one domain and the host classes of the root and of class objects. -/
def founded : Store :=
  ((newDomain .standard .inert).run { Store.initial with
    natives := ⟨[], [Builtins.objectClassId, Builtins.classClassId].map fun id => (id, .bare id),
      false⟩ }).2

/-- Linking the root. -/
def linkObject : Run ClassRef :=
  link ⟨0⟩ { ClassDescriptor.bare "Object" with nativeId := some Builtins.objectClassId } none
    (.global ⟨0⟩)

/-- Linking the class of class objects, which declares a method. -/
def linkClass (base : Option ClassRef) : Run ClassRef :=
  link ⟨0⟩
    { ClassDescriptor.bare "Class" with
      nativeId := some Builtins.classClassId
      instanceTraits := [⟨.plain "describe", .method (.bytecode 1 none 0)⟩] } base
    (.global ⟨0⟩)

/-- The store with the root. -/
def objectOnly : Store := (exec linkObject founded).2

/-- The store with both classes, the root first. -/
def objectFirst : Store := (exec (linkClass (some ⟨0⟩)) objectOnly).2

theorem linking_objectOnly : Linking objectOnly [⟨0⟩] :=
  .linked (.domain .standard .inert (.start _)) (by decide +kernel) (by simp)
    (exec_eq_of_toOption (x := linkObject) (by decide +kernel))

end Sample

/-- The class of class objects is linked after the root, whose class object gains the method. -/
theorem spares_of_linking_objectFirst :
    Linking Sample.objectOnly [⟨0⟩] ∧ Sample.objectOnly.Spares Sample.objectFirst ⟨0⟩ ⟨1⟩ ∧
      (Sample.objectFirst.properties (Sample.objectOnly.classAt ⟨0⟩).object).contains "describe" :=
  ⟨Sample.linking_objectOnly,
    spares_of_linking Sample.linking_objectOnly (by decide +kernel)
      (exec_eq_of_toOption (x := Sample.linkClass (some ⟨0⟩)) (by decide +kernel)),
    by decide +kernel⟩

end ClassLink
