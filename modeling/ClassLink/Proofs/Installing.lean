import ClassLink.Proofs.Stages

/-!
# Installing members

The members of a class are bound and installed for each of its two trait sets in the same way
(`BindingContext.install`): the table is built, applied to an object, and kept in the class. Of
the objects only the one it is applied to gets properties; of the domain only the counts change,
and that of the stubs by the number of missing members (`Tallies`). The rest of a link, which
shares members between class objects and enters the class in the directory, leaves classes and
functions as they are.
-/

namespace ClassLink

variable {d : DomainRef} {c : ClassRef} {s t u : Store}

/-- So many missing members were said to a domain, and so many stubs were counted. -/
structure Tallies (d : DomainRef) (missing stubs : Nat) (s t : Store) : Prop where
  diagnostics : ∃ new, (t.domain d).diagnostics = (s.domain d).diagnostics ++ new ∧
    new.countP (·.isMissingNative) = missing
  stubs : (t.domain d).stats.stubs = (s.domain d).stats.stubs + stubs

namespace Tallies

variable {m n m' n' : Nat}

theorem of_eq (diagnostics : (t.domain d).diagnostics = (s.domain d).diagnostics)
    (stubs : (t.domain d).stats.stubs = (s.domain d).stats.stubs + n) : Tallies d 0 n s t :=
  ⟨⟨[], diagnostics.trans (List.append_nil _).symm, rfl⟩, stubs⟩

/-- A domain that is not written. -/
theorem of_domain (h : t.domain d = s.domain d) : Tallies d 0 0 s t :=
  of_eq (congrArg Domain.diagnostics h) (congrArg (·.stats.stubs) h)

theorem refl (d : DomainRef) (s : Store) : Tallies d 0 0 s s := of_domain rfl

theorem trans (h : Tallies d m n s t) (k : Tallies d m' n' t u) :
    Tallies d (m + m') (n + n') s u := by
  obtain ⟨new, said, count⟩ := h.diagnostics
  obtain ⟨new', said', count'⟩ := k.diagnostics
  refine ⟨⟨new ++ new', ?_, ?_⟩, by rw [k.stubs, h.stubs, Nat.add_assoc]⟩
  · rw [said', said, List.append_assoc]
  · rw [List.countP_append, count, count']

theorem of_binds (h : Binds d n s t) : Tallies d 0 n s t := of_eq h.diagnostics (by rw [h.stats])

theorem of_emits {xs : List Diagnostic} (h : Emits d xs s t) :
    Tallies d (xs.countP (·.isMissingNative)) 0 s t :=
  ⟨⟨xs, h.diagnostics, rfl⟩, by rw [h.stats]; rfl⟩

/-- What keeps diagnostics and the count of stubs when it changes a domain. -/
theorem modifyDomain (d e : DomainRef) (s : Store) {g : Domain → Domain}
    (diagnostics : ∀ x, (g x).diagnostics = x.diagnostics)
    (stubs : ∀ x, (g x).stats.stubs = x.stats.stubs) : Tallies d 0 0 s (s.modifyDomain e g) := by
  refine of_eq ?_ ?_ <;> rw [Store.domain_modifyDomain] <;> split
  · exact diagnostics _
  · rfl
  · exact stubs _
  · rfl

end Tallies

/-! ### Applying a table -/

section
variable (b : Bindings) (o : ObjectRef) (mode : ApplyMode)

theorem applyTo_run (d : DomainRef) (s : Store) :
    (b.applyTo d o mode).run s = ((), (s.modifyProperties o (b.applied mode)).modifyDomain d
      (·.countTable (b.pending mode (s.properties o)).length)) := rfl

theorem confined_applyTo {p : Footprint} (ho : o ∈ p.filled) (hd : d ∈ p.domains) :
    Confined p s ((b.applyTo d o mode).run s).2 := by
  rw [applyTo_run]
  exact (confined_modifyProperties ho _).trans (confined_modifyDomain hd _ fun _ => rfl)

/-- Once a table is applied to an object, the domain has counted it and the members installed. -/
theorem domain_applyTo (inside : d.index < s.domains.size) :
    ((b.applyTo d o mode).run s).2.domain d =
      (s.domain d).countTable (b.pending mode (s.properties o)).length := by
  rw [applyTo_run]
  exact (Store.domain_modifyDomain ..).trans (if_pos ⟨rfl, inside⟩)

theorem tallies_applyTo : Tallies d 0 0 s ((b.applyTo d o mode).run s).2 := by
  have counted := Tallies.modifyDomain d d (s.modifyProperties o (b.applied mode))
    (g := (·.countTable (b.pending mode (s.properties o)).length)) (fun _ => rfl) fun _ => rfl
  exact ⟨counted.diagnostics, counted.stubs⟩

end

/-! ### Binding and installing a trait set -/

namespace BindingContext

/-- Build the table of a trait set, install it on an object if there is one, and keep it in a
class. -/
def install (x : BindingContext) (traits : List Trait) (target : Option ObjectRef) (c : ClassRef)
    (keep : Bindings → Class → Class) : Action Bindings := do
  let b ← x.build traits
  if let some o := target then b.applyTo x.domain o .replace
  modify (·.modifyClass c (keep b))
  return b

variable (x : BindingContext) (traits : List Trait) (target : Option ObjectRef)
  (keep : Bindings → Class → Class)

/-- The store once a table is applied, if there is an object to apply it to. -/
def applied (b : Bindings) (s : Store) : Store :=
  match target with
  | some o => ((b.applyTo x.domain o .replace).run s).2
  | none => s

theorem install_run (s : Store) :
    (x.install traits target c keep).run s = (((x.build traits).run s).1,
      (x.applied target ((x.build traits).run s).1 ((x.build traits).run s).2).modifyClass c
        (keep ((x.build traits).run s).1)) := by
  unfold install applied
  rw [run_bind]
  cases target <;> rfl

/-- What installing a trait set leaves. -/
structure Installed (s t : Store) (c : ClassRef) (b : Bindings) : Prop where
  confined : Confined
    { Footprint.none with filled := {o | target = some o}, classes := {c}, domains := {x.domain} }
    s t
  classAt : t.classAt c = keep b (s.classAt c)
  tallies : Tallies x.domain 0 (traits.countP (·.isMissing s x.holders)) s t
  coherent : b.own.Coherent
  supplied : (traits.map Trait.id).Nodup → ∀ m ∈ traits, ∃ binding,
    b.lookupOwn m.key m.kind = some binding ∧ x.Supplied s t m binding

theorem install_installed (lt : x.domain.index < s.domains.size) (inside : c.index < s.classes.size) :
    x.Installed traits target keep s ((x.install traits target c keep).run s).2 c
      ((x.install traits target c keep).run s).1 := by
  obtain ⟨binds, coherent, supplied⟩ := x.build_spec traits s lt
  rw [install_run]
  generalize (x.build traits).run s = r at binds coherent supplied
  obtain ⟨b, u⟩ := r
  simp only at binds coherent supplied ⊢
  have applied : Confined { Footprint.none with
        filled := {o | target = some o}, classes := {c}, domains := {x.domain} } u
        (x.applied target b u) ∧
      Tallies x.domain 0 0 u (x.applied target b u) ∧
      (x.applied target b u).classes = u.classes := by
    unfold BindingContext.applied
    cases target with
    | none => exact ⟨.refl _ u, .refl _ u, rfl⟩
    | some o => exact ⟨confined_applyTo b o .replace rfl rfl, tallies_applyTo b o .replace, rfl⟩
  obtain ⟨confined, tallies, classes⟩ := applied
  generalize x.applied target b u = v at confined tallies classes
  have same : v.classAt c = s.classAt c := by
    rw [Store.classAt, classes, binds.classes]
    rfl
  have kept := confined_modifyClass (p := { Footprint.none with
    filled := {o | target = some o}, classes := {c}, domains := {x.domain} }) (c := c) rfl
    (s := v) (keep b)
  refine ⟨?_, ?_, ?_, coherent, fun nodup m hm => ?_⟩
  · refine Confined.trans ?_ (confined.trans kept)
    exact binds.confined.mono (fun _ hp => hp.elim) (fun _ hp => hp.elim) (fun _ hp => hp.elim)
      (fun _ hp => hp.elim) fun _ hp => hp
  · have lt' : c.index < v.classes.size := by rwa [classes, binds.classes]
    rw [Store.classAt_modifyClass, same, if_pos ⟨rfl, lt'⟩]
  · have last : Tallies x.domain 0 0 v (v.modifyClass c (keep b)) := .of_eq rfl rfl
    exact (Tallies.of_binds binds).trans (tallies.trans last)
  · obtain ⟨binding, found, supply⟩ := supplied nodup m hm
    exact ⟨binding, found, supply.mono (confined.trans kept) fun _ _ => Set.notMem_empty _⟩

variable {x traits target keep} in
theorem Installed.confined_members {b : Bindings} (h : x.Installed traits target keep s t c b) :
    Confined (.members c x.domain) s t :=
  h.confined.mono (fun _ hp => hp.elim) (fun _ _ _ => trivial) (fun _ hp => hp.elim)
    (fun _ hp _ => hp) fun _ hp => hp

end BindingContext

/-! ### The members of a class -/

section
variable (d : DomainRef) (c : ClassRef) (base : Option ClassRef) (inner : Scope) (s : Store)

/-- What the class-level members of a class are bound in. -/
def staticContext : BindingContext :=
  ⟨d, .static, (s.classAt c).name, inner, (s.classAt c).staticHolders, none⟩

/-- What the instance members of a class are bound in. -/
def instanceContext : BindingContext :=
  ⟨d, .instance, (s.classAt c).name, inner, (s.classAt c).instanceHolders,
    base.bind fun b => (s.classAt b).instanceBindings⟩

/-- Class-level members are installed on the class object. -/
def installStatics : Bindings × Store :=
  ((staticContext d c inner s).install (s.classAt c).descriptor.staticTraits
    (some (s.classAt c).object) c fun b k => { k with staticBindings := some b }).run s

/-- Instance members are installed on the template. -/
def installInstances : Bindings × Store :=
  ((instanceContext d c base inner s).install (s.classAt c).descriptor.instanceTraits
    (s.classAt c).template? c fun b k => { k with instanceBindings := some b }).run s

theorem bindStatics_run :
    (bindStatics d c inner).run s = ((), (installStatics d c inner s).2) := by
  rw [installStatics, BindingContext.install_run]
  rfl

theorem bindInstances_run :
    (bindInstances d c base inner).run s = installInstances d c base inner s := by
  rw [installInstances, BindingContext.install_run]
  unfold bindInstances BindingContext.applied instanceContext
  rw [run_bind, get_run]
  dsimp only
  rw [run_bind]
  cases (s.classAt c).template? <;> rfl

/-- The table that sharing applies, and the class object that it applies it to, if any: the class of
class objects gives its members to the root, and any other class is given them. -/
def Store.sharing? (bindings : Bindings) : Option (Bindings × ObjectRef) :=
  if (s.classAt c).kind = .ofClasses then
    (s.domain d).rootClass.map fun root => (bindings, (s.classAt root).object)
  else
    ((s.domain d).classOfClasses.bind fun m => (s.classAt m).instanceBindings).map
      fun shared => (shared, (s.classAt c).object)

/-- Sharing applies one table to one object, or does nothing. -/
theorem shareClassMembers_run (bindings : Bindings) :
    (shareClassMembers d c bindings).run s =
      match s.sharing? d c bindings with
      | some (b, o) => (b.applyTo d o .append).run s
      | none => ((), s) := by
  unfold shareClassMembers Store.sharing?
  rw [run_bind, get_run]
  simp only
  split
  · cases (s.domain d).rootClass <;> rfl
  · cases (s.domain d).classOfClasses.bind fun m => (s.classAt m).instanceBindings <;> rfl

/-- Bind the class-level members and the instance members of a class, and install them on its own
objects. -/
def bindOwnMembers (d : DomainRef) (c : ClassRef) (base : Option ClassRef) (inner : Scope) :
    Action Bindings := do
  bindStatics d c inner
  bindInstances d c base inner

/-- The two trait sets are installed one after the other. -/
theorem bindOwnMembers_run :
    (bindOwnMembers d c base inner).run s =
      installInstances d c base inner (installStatics d c inner s).2 := by
  unfold bindOwnMembers
  rw [run_bind, bindStatics_run, bindInstances_run]

/-- The members of a class are shared once they are bound. -/
theorem bindMembers_run :
    (bindMembers d c base inner).run s =
      (shareClassMembers d c ((bindOwnMembers d c base inner).run s).1).run
        ((bindOwnMembers d c base inner).run s).2 := by
  unfold bindMembers bindOwnMembers
  rw [run_bind, run_bind, run_bind]

end

/-- The stages after the members are bound: properties and counts, and at the end the directory,
are all that changes. -/
structure Announced (d : DomainRef) (s t : Store) : Prop where
  links : ∀ o, t.parent o = s.parent o ∧ t.owner o = s.owner o
  objects_eq : t.objects.size = s.objects.size
  functions : t.functions = s.functions
  classes : t.classes = s.classes
  domains_eq : t.domains.size = s.domains.size
  natives : t.natives = s.natives
  tallies : Tallies d 0 0 s t

namespace Announced

theorem refl (d : DomainRef) (s : Store) : Announced d s s :=
  ⟨fun _ => ⟨rfl, rfl⟩, rfl, rfl, rfl, rfl, rfl, .refl d s⟩

theorem trans (h : Announced d s t) (k : Announced d t u) : Announced d s u where
  links o := ⟨(k.links o).1.trans (h.links o).1, (k.links o).2.trans (h.links o).2⟩
  objects_eq := k.objects_eq.trans h.objects_eq
  functions := k.functions.trans h.functions
  classes := k.classes.trans h.classes
  domains_eq := k.domains_eq.trans h.domains_eq
  natives := k.natives.trans h.natives
  tallies := h.tallies.trans k.tallies

theorem applyTo (d : DomainRef) (b : Bindings) (o : ObjectRef) (mode : ApplyMode) (s : Store) :
    Announced d s ((b.applyTo d o mode).run s).2 := by
  have total : ∀ x, (s.modifyProperties o (b.applied mode)).parent x = s.parent x ∧
      (s.modifyProperties o (b.applied mode)).owner x = s.owner x := fun x => by
    simp only [Store.parent, Store.owner, Store.modifyProperties, Store.object_modifyObject]
    split <;> exact ⟨rfl, rfl⟩
  exact ⟨total, Array.size_modify .., rfl, rfl, Array.size_modify .., rfl,
    tallies_applyTo b o mode⟩

theorem shareClassMembers (d : DomainRef) (c : ClassRef) (s : Store) (bindings : Bindings) :
    Announced d s ((shareClassMembers d c bindings).run s).2 := by
  rw [shareClassMembers_run]
  cases s.sharing? d c bindings with
  | none => exact .refl d s
  | some r => exact .applyTo d r.1 r.2 .append s

theorem registerClass (d : DomainRef) (c : ClassRef) (s : Store) :
    Announced d s ((registerClass d c).run s).2 := by
  refine ⟨fun _ => ⟨rfl, rfl⟩, rfl, rfl, rfl, Array.size_modify .., rfl, ?_⟩
  exact Tallies.modifyDomain d d s (fun _ => rfl) fun _ => rfl

theorem announceClass (d : DomainRef) (c : ClassRef) (s : Store) :
    Announced d s ((announceClass d c).run s).2 := by
  unfold ClassLink.announceClass
  rw [run_bind, run_bind, get_run]
  have registered := registerClass d c s
  generalize ((ClassLink.registerClass d c).run s).2 = t at registered
  simp only
  split
  · exact registered.trans ⟨fun _ => ⟨rfl, rfl⟩, rfl, rfl, rfl, rfl, rfl, .of_eq rfl rfl⟩
  · exact registered

theorem keeps (h : Announced d s t) : s.Keeps t where
  objects_le := h.objects_eq.ge
  functions_le := h.functions ▸ le_rfl
  classes_le := h.classes ▸ le_rfl
  domains_le := h.domains_eq.ge
  parent o _ := (h.links o).1
  owner o _ := (h.links o).2
  function f _ := by
    rw [Store.function, h.functions]
    rfl
  classAt c _ := by
    rw [Store.classAt, h.classes]
    rfl

end Announced

/-! ### All stages -/

/-- What a link that succeeds makes on its way. -/
structure LinkTrace where
  /-- The constructor that the class is offered. -/
  offered : FunctionRef
  /-- The store in which the class is created. -/
  prepared : Store
  wiring : Wiring
  created : Store
  checked : Store
  statics : Bindings
  /-- The store after the class-level members are bound. -/
  between : Store
  instances : Bindings
  /-- The store after all members are bound, in which those of class objects are shared. -/
  bound : Store

/-- The constructor that the class ends up with. -/
def LinkTrace.constructor (x : LinkTrace) (c : ClassRef) : FunctionRef :=
  (x.prepared.classAt c).constructor.getD x.offered

/-- A link went through these stores. -/
structure LinkStages (d : DomainRef) (descriptor : ClassDescriptor) (base : Option ClassRef)
    (scope : Scope) (s t : Store) (c : ClassRef) (x : LinkTrace) : Prop where
  valid : descriptor.validate = .ok ()
  begun : Begun d descriptor base scope s x.prepared c x.offered
  creating : exec (create d c base x.offered) x.prepared = (.ok (), x.created)
  created : Created x.prepared x.created c base (x.constructor c) x.wiring
  checked : exec (checkClass d c) x.created = (.ok (), x.checked)
  statics : (staticContext d c (scope.push (.class c)) x.checked).Installed
    (x.checked.classAt c).descriptor.staticTraits (some (x.checked.classAt c).object)
    (fun b k => { k with staticBindings := some b }) x.checked x.between c x.statics
  instances : (instanceContext d c base (scope.push (.class c)) x.between).Installed
    (x.between.classAt c).descriptor.instanceTraits (x.between.classAt c).template?
    (fun b k => { k with instanceBindings := some b }) x.between x.bound c x.instances
  staticsRun : installStatics d c (scope.push (.class c)) x.checked = (x.statics, x.between)
  instancesRun : installInstances d c base (scope.push (.class c)) x.between = (x.instances, x.bound)
  ending : t = ((announceClass d c).run ((shareClassMembers d c x.instances).run x.bound).2).2

variable {descriptor : ClassDescriptor} {base : Option ClassRef} {scope : Scope}

theorem linkStages_of_link (lt : d.index < s.domains.size)
    (h : exec (link d descriptor base scope) s = (.ok c, t)) :
    ∃ x, LinkStages d descriptor base scope s t c x := by
  obtain ⟨valid, s₁, s₂, s₃, offered, begun, ok, checked, last⟩ := stages_of_link h
  have prepared := begun.prepared
  have hc : c ∈ (Footprint.beyond s d).classes := prepared.le
  obtain ⟨w, created⟩ := prepared.created ok
  have second := prepared.confined_create d base
  rw [ok] at second
  have confined := prepared.confined.of_none.trans second
  have lt₂ := confined.domains_eq ▸ lt
  have third := confined_checkClass hc rfl lt₂
  rw [checked] at third
  have lt₃ := third.domains_eq ▸ lt₂
  have inside := (prepared.lt.trans_le second.classes_le).trans_le third.classes_le
  have statics := (staticContext d c (scope.push (.class c)) s₃).install_installed
    (s₃.classAt c).descriptor.staticTraits (some (s₃.classAt c).object)
    (fun b k => { k with staticBindings := some b }) lt₃ inside
  rw [bindMembers_run, bindOwnMembers_run] at last
  generalize run : installStatics d c (scope.push (.class c)) s₃ = r at last
  rw [← installStatics, run] at statics
  have instances := (instanceContext d c base (scope.push (.class c)) r.2).install_installed
    (r.2.classAt c).descriptor.instanceTraits (r.2.classAt c).template?
    (fun b k => { k with instanceBindings := some b }) (statics.confined.domains_eq ▸ lt₃)
    (inside.trans_le statics.confined.classes_le)
  exact ⟨⟨offered, s₁, w, s₂, s₃, r.1, r.2, _, _⟩, valid, begun, ok, created, checked, statics,
    instances, run, rfl, last⟩

namespace LinkStages

variable {x : LinkTrace}

theorem announced (h : LinkStages d descriptor base scope s t c x) : Announced d x.bound t := by
  rw [h.ending]
  exact (Announced.shareClassMembers d c x.bound x.instances).trans (.announceClass d c _)

theorem confined_created (h : LinkStages d descriptor base scope s t c x) :
    Confined (.beyond s d) s x.created :=
  h.begun.prepared.confined_created h.creating

/-- After the class is created, its members and its report are all that is filled in. -/
theorem confined_later (h : LinkStages d descriptor base scope s t c x)
    (lt : d.index < s.domains.size) : Confined (.members c d) x.created x.bound := by
  have checked := confined_checkClass (p := .members c d) (s := x.created) (c := c) rfl rfl
    (h.confined_created.domains_eq ▸ lt)
  rw [h.checked] at checked
  exact checked.trans (h.statics.confined_members.trans h.instances.confined_members)

/-- Creating the class defines no properties. -/
theorem confined_creating (h : LinkStages d descriptor base scope s t c x) :
    Confined ⟨Set.univ, ∅, Set.univ, Set.univ, Set.univ⟩ x.prepared x.created := by
  have created : Confined ⟨Set.univ, ∅, Set.univ, Set.univ, Set.univ⟩ x.prepared
      (exec (create d c base x.offered) x.prepared).2 :=
    ClassLink.confined_create trivial trivial trivial (fun _ _ => trivial) (fun _ _ => trivial)
      h.begun.prepared.lt fun o ho => (h.begun.prepared.hostTemplate_new ho).2.1
  rwa [h.creating] at created

theorem prepared_le (h : LinkStages d descriptor base scope s t c x) :
    x.prepared.objects.size ≤ x.created.objects.size ∧
      x.prepared.functions.size ≤ x.created.functions.size ∧
      x.prepared.classes.size ≤ x.created.classes.size :=
  ⟨h.confined_creating.objects_le, h.confined_creating.functions_le,
    h.confined_creating.classes_le⟩

/-- Creating and checking a class fill in its wiring, its constructor and its report. -/
theorem classAt_checked (h : LinkStages d descriptor base scope s t c x)
    (lt : d.index < s.domains.size) : x.checked.classAt c = { x.prepared.classAt c with
      wiring := some x.wiring
      constructor := some (x.constructor c)
      constructorNoInit := some (x.constructor c)
      verification := (x.checked.classAt c).verification } := by
  have inside := h.begun.prepared.lt.trans_le h.prepared_le.2.2
  rw [classAt_checkClass (h.confined_created.domains_eq ▸ lt) inside h.checked, h.created.classAt]

/-- Once it is created, a class changes in its report and its tables. -/
theorem classAt (h : LinkStages d descriptor base scope s t c x) (lt : d.index < s.domains.size) :
    t.classAt c = { x.created.classAt c with
      verification := (x.checked.classAt c).verification
      staticBindings := some x.statics
      instanceBindings := some x.instances } := by
  have inside := h.begun.prepared.lt.trans_le h.prepared_le.2.2
  rw [Store.classAt, h.announced.classes]
  refine h.instances.classAt.trans ?_
  rw [h.statics.classAt, classAt_checkClass (h.confined_created.domains_eq ▸ lt) inside h.checked]

/-- The class object and the template are new. -/
theorem object_le (h : LinkStages d descriptor base scope s t c x) (lt : d.index < s.domains.size) :
    s.objects.size ≤ (x.checked.classAt c).object.index := by
  rw [h.classAt_checked lt]
  exact h.begun.prepared.parts.object.1

/-- The class object comes before the template. -/
theorem object_lt_template (h : LinkStages d descriptor base scope s t c x) :
    (x.prepared.classAt c).object.index < x.wiring.template.index := by
  have prepared := h.begun.prepared
  have host : ∀ o, (x.prepared.classAt c).hostTemplate? x.prepared = some o →
      (x.prepared.classAt c).object.index < o.index := fun o ho => (prepared.hostTemplate_new ho).1
  cases e : x.wiring.strategy with
  | takeover => exact host _ (h.created.takeover e).2.1
  | build =>
    rcases (h.created.build e).2.1 with own | beyond
    · exact host _ own
    · exact prepared.parts.object.2.trans beyond

theorem template_le (h : LinkStages d descriptor base scope s t c x) :
    s.objects.size ≤ x.wiring.template.index :=
  h.begun.prepared.parts.object.1.trans h.object_lt_template.le

theorem template?_between (h : LinkStages d descriptor base scope s t c x)
    (lt : d.index < s.domains.size) :
    (x.between.classAt c).template? = some x.wiring.template := by
  rw [Class.template?, h.statics.classAt, h.classAt_checked lt]
  rfl

theorem confined_checked (h : LinkStages d descriptor base scope s t c x)
    (lt : d.index < s.domains.size) : Confined (.beyond s d) s x.checked := by
  have checked := confined_checkClass (p := .beyond s d) (s := x.created)
    (show c ∈ (Footprint.beyond s d).classes from h.begun.prepared.le) rfl
    (h.confined_created.domains_eq ▸ lt)
  rw [h.checked] at checked
  exact h.confined_created.trans checked

theorem confined_between (h : LinkStages d descriptor base scope s t c x)
    (lt : d.index < s.domains.size) : Confined (.beyond s d) s x.between := by
  refine (h.confined_checked lt).trans (h.statics.confined.mono (fun _ hp => hp.elim) ?_
    (fun _ hp => hp.elim) ?_ fun _ hp => hp)
  · rintro _ ⟨⟩ _
    exact h.object_le lt
  · rintro _ rfl _
    exact h.begun.prepared.le

/-- Up to the point where members are shared, only what is new is written, and the domain. -/
theorem confined_bound (h : LinkStages d descriptor base scope s t c x)
    (lt : d.index < s.domains.size) : Confined (.beyond s d) s x.bound := by
  refine (h.confined_between lt).trans (h.instances.confined.mono (fun _ hp => hp.elim) ?_
    (fun _ hp => hp.elim) ?_ fun _ hp => hp)
  · rintro o ho _
    obtain rfl := Option.some.inj ((h.template?_between lt).symm.trans ho)
    exact h.template_le
  · rintro _ rfl _
    exact h.begun.prepared.le

/-- The class is there in the end. -/
theorem inside (h : LinkStages d descriptor base scope s t c x) (lt : d.index < s.domains.size) :
    c.index < t.classes.size := by
  rw [h.announced.classes]
  exact (h.begun.prepared.lt.trans_le h.prepared_le.2.2).trans_le (h.confined_later lt).classes_le

/-- A link leaves what it finds as it was. -/
theorem keeps (h : LinkStages d descriptor base scope s t c x) (lt : d.index < s.domains.size) :
    s.Keeps t :=
  (h.confined_bound lt).keeps_of_beyond.trans h.announced.keeps

end LinkStages

end ClassLink
