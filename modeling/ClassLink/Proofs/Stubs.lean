import ClassLink.Proofs.Hierarchy
import ClassLink.Proofs.HolderFunctions

/-!
# The verifier and the binder agree

A class is verified before its members are bound, and they are looked up again when they are. In
between the class gets its templates, and its class-level members are installed on the class
object, which is itself one of the holders. Still every member is found by both or by neither:
the holders keep their properties up to the point where their set is bound. And a member that is
found is never bound to a new stub, since no host object holds one (`HoldsNoNewStub`). So the
report lists exactly the members that are bound to new stubs.
-/

namespace ClassLink

/-- The objects in which the native members of a class are to be looked up. -/
def Class.hostObjects (k : Class) (s : Store) : List ObjectRef :=
  staticHoldersOf k ++ instanceHoldersOf s k

/-- A host class is looked up in its host objects, any other class nowhere. -/
theorem Class.mem_hostObjects {k : Class} {s : Store} {o : ObjectRef} (h : o ∈ k.hostObjects s) :
    k.isNative = true ∧ (o = k.object ∨ k.hostTemplate? s = some o ∨
      o ∈ k.staticNatives.extras ++ k.instanceNatives.extras) := by
  unfold hostObjects staticHoldersOf instanceHoldersOf at h
  by_cases native : k.isNative = true
  · simp only [native, if_true, List.mem_append, List.mem_cons, Option.mem_toList] at h
    refine ⟨native, ?_⟩
    rw [List.mem_append]
    rcases h with (same | extra) | template | extra
    · exact .inl same
    · exact .inr (.inr (.inl extra))
    · exact .inr (.inl template)
    · exact .inr (.inr (.inr extra))
  · simp [native] at h

/-- The host class that a descriptor names, if it names one, refers to functions that exist. -/
def Store.HostClosed (s : Store) (descriptor : ClassDescriptor) : Prop :=
  ∀ id definition, descriptor.nativeId = some id → s.natives.lookup id = some definition →
    definition.Closed s

section
variable {d : DomainRef} {descriptor : ClassDescriptor} {base : Option ClassRef} {scope : Scope}
  {s t u : Store} {c : ClassRef} {o : ObjectRef}

/-! ### The holders up to binding -/

/-- The host objects of a class that is being linked existed before it was stored, or are new. -/
theorem Allocated.hostObject_inside (h : Allocated descriptor s t c)
    (ho : o ∈ (t.classAt c).hostObjects t) : o.index < t.objects.size := by
  obtain ⟨_, rfl | template | extra⟩ := Class.mem_hostObjects ho
  · exact h.parts.object.2
  · cases own : (t.classAt c).constructor with
    | none => rw [Class.hostTemplate?, own] at template; cases template
    | some f =>
      obtain ⟨_, _, o', made, _, inside, _⟩ := h.parts.constructor f own
      rw [Class.hostTemplate?, own, Option.bind_some, made] at template
      obtain rfl := Option.some.inj template
      exact inside
  · exact (h.parts.extras o extra).2

/-- The holders of instance members depend on the template of the constructor. -/
theorem instanceHoldersOf_congr {k : Class}
    (h : ∀ f, k.constructor = some f → t.template f = s.template f) :
    instanceHoldersOf t k = instanceHoldersOf s k := by
  unfold instanceHoldersOf
  cases own : k.constructor with
  | none => rfl
  | some f => rw [Option.bind_some, Option.bind_some, h f own]

/-- The class object is no holder of instance members. -/
theorem Prepared.instanceHolder_above {offered : FunctionRef}
    (h : Prepared descriptor scope s t c offered) (ho : o ∈ (t.classAt c).instanceHolders) :
    (t.classAt c).object.index < o.index := by
  rw [h.instanceHolders, instanceHoldersOf] at ho
  split at ho
  · rcases List.mem_append.mp ho with template | extra
    · exact (h.hostTemplate_new (Option.mem_toList.mp template)).1
    · exact (h.parts.extras o (List.mem_append_right _ extra)).1
  · exact absurd ho List.not_mem_nil

/-- A class is allocated over host objects that hold no stub made for it. -/
theorem holdsNoNewStub_of_allocateFor
    (closed : s.HostClosed descriptor)
    (h : exec (allocateFor descriptor) s = (.ok c, t)) (ho : o ∈ (t.classAt c).hostObjects t) :
    HoldsNoNewStub s t o := by
  have allocated := allocated_of_allocateFor h
  obtain ⟨isNative, which⟩ := Class.mem_hostObjects ho
  unfold allocateFor at h
  cases native : descriptor.nativeId with
  | none =>
    rw [Class.isNative, allocated.nativeId, native] at isNative
    cases isNative
  | some id =>
    simp only [native, exec_get_bind] at h
    cases found : s.natives.lookup id with
    | none => rw [found] at h; cases h
    | some definition =>
      simp only [found, exec_lift_bind] at h
      have held := definition.holdsNoNewStub_materialize (closed id definition native found) s
      have made := definition.materialize_made s
      generalize definition.materialize.run s = r at h held made
      obtain ⟨parts, v⟩ := r
      simp only at h held made
      obtain ⟨k, stored, object, constructor, statics, instances⟩ :
          ∃ k, allocateNative descriptor id parts = allocate k ∧ k.object = parts.classObject ∧
            k.constructor = parts.constructor ∧ k.staticNatives = parts.staticNatives ∧
            k.instanceNatives = parts.instanceNatives := ⟨_, rfl, rfl, rfl, rfl, rfl⟩
      rw [stored, exec_lift] at h
      obtain ⟨same, rfl⟩ := Prod.mk.inj h
      obtain rfl := Except.ok.inj same
      rw [classAt_allocate] at which
      have mem : o ∈ parts.holders v := by
        rw [NativeParts.holders, List.mem_cons, List.mem_append]
        rcases which with same | template | extra
        · exact .inl (same.trans object)
        · rw [Class.hostTemplate?, constructor] at template
          exact .inr (.inl (Option.mem_toList.mpr template))
        · rw [statics, instances] at extra
          exact .inr (.inr extra)
      have size : ((allocate k).run v).2.objects.size = v.objects.size := Store.size_setOwner ..
      have later := confined_allocate (p := ⟨Set.univ, ∅, ∅, ∅, ∅⟩) (k := k) trivial v
      exact (held o mem).confined (size ▸ allocated.hostObject_inside ho) later
        (Set.notMem_empty o) fun g => Set.notMem_empty g

/-- The holders of a class are its host objects; of the rest only the class is written. -/
theorem holders_of_prepareClass {offered : FunctionRef} (h : Allocated descriptor s t c)
    (run : (prepareClass d descriptor base scope c).run t = (offered, u)) :
    (u.classAt c).staticHolders ++ (u.classAt c).instanceHolders = (t.classAt c).hostObjects t ∧
      Confined { Footprint.none with classes := {c} } t u := by
  have written : Confined { Footprint.none with classes := {c} } t u := by
    have prepared := confined_prepareClass d descriptor base scope (t := t)
      (p := { Footprint.none with classes := {c} }) (c := c) rfl
    rwa [run] at prepared
  have class_ := classAt_prepareClass d descriptor base scope h.lt
  rw [run] at class_
  refine ⟨?_, written⟩
  show _ = staticHoldersOf (t.classAt c) ++ instanceHoldersOf t (t.classAt c)
  rw [class_]
  refine congrArg (staticHoldersOf (t.classAt c) ++ ·) (instanceHoldersOf_congr fun f own => ?_)
  rw [Store.template, written.function f (h.parts.constructor f own).2.1 (Set.notMem_empty f)]
  rfl

namespace LinkStages

variable {x : LinkTrace}

/-- The holders of a class that has been checked hold no stub made for it. -/
theorem holdsNoNewStub (h : LinkStages d descriptor base scope s t c x)
    (lt : d.index < s.domains.size)
    (closed : s.HostClosed descriptor)
    (ho : o ∈ (x.prepared.classAt c).staticHolders ++ (x.prepared.classAt c).instanceHolders) :
    o.index < x.created.objects.size ∧ HoldsNoNewStub s x.checked o := by
  have prepared := h.begun.prepared
  obtain ⟨u, allocated, run⟩ := h.begun
  obtain ⟨holders, written⟩ := holders_of_prepareClass (allocated_of_allocateFor allocated) run
  rw [holders] at ho
  have inside := (allocated_of_allocateFor allocated).hostObject_inside ho
  have held := (holdsNoNewStub_of_allocateFor closed allocated ho).confined inside written
    (Set.notMem_empty o) fun g => Set.notMem_empty g
  have inside₁ := inside.trans_le written.objects_le
  have host : ∀ o', (x.prepared.classAt c).hostTemplate? x.prepared = some o' →
      o'.index < x.prepared.objects.size := fun o' ho' => (prepared.hostTemplate_new ho').2.1
  have creating := h.confined_creating
  have held₂ := held.later (creating.properties o inside₁ (Set.notMem_empty o))
    creating.functions_le fun g hg => isUnresolved_of_create prepared.lt host h.creating hg
  obtain ⟨objects, functions⟩ := heap_checkClass (h.confined_created.domains_eq ▸ lt) h.checked
  refine ⟨inside₁.trans_le creating.objects_le, held₂.later ?_ (congrArg Array.size functions).ge ?_⟩
  · rw [Store.properties, Store.object, objects]
    rfl
  · intro g _
    rw [Store.function, functions]
    rfl

end LinkStages

/-! ### Members and stubs -/

/-- A member is bound, in `t`, to a stub that `s` does not have. -/
def Bindings.isStubbed (b : Bindings) (s t : Store) (m : Trait) : Bool :=
  (b.lookupOwn m.key m.kind).any fun binding => binding.function?.any fun g =>
    s.functions.size ≤ g.index && (t.function g).isUnresolved

/-- A member found in a holder is among the functions that the holder has. -/
theorem Trait.resolve?_mem {m : Trait} {holders : List ObjectRef} {f : FunctionRef}
    (h : m.resolve? s holders = some f) :
    ∃ o ∈ holders, (s.properties o).function? m.kind (nativeName m.name.name) = some f := by
  obtain ⟨o, ho, found⟩ := List.exists_of_findSome?_eq_some h
  exact ⟨o, ho, found⟩

/-- **Members and stubs.** A member of an installed set is bound to a new stub exactly if no holder
implements it. -/
theorem BindingContext.Installed.isStubbed_eq {y : BindingContext} {traits : List Trait}
    {target : Option ObjectRef} {keep : Bindings → Class → Class} {r : Store} {b : Bindings}
    (h : y.Installed traits target keep r u c b) (le : s.functions.size ≤ r.functions.size)
    (holders : ∀ o ∈ y.holders, HoldsNoNewStub s r o)
    (kept : ∀ g : FunctionRef, g.index < u.functions.size → t.function g = u.function g)
    (nodup : (traits.map Trait.id).Nodup) {m : Trait} (hm : m ∈ traits) :
    b.isStubbed s t m = m.isMissing r y.holders := by
  obtain ⟨binding, found, supplied⟩ := h.supplied nodup m hm
  rw [Bindings.isStubbed, found, Option.any_some]
  cases missing : m.isMissing r y.holders with
  | true =>
    obtain ⟨g, hg, ge, lt, stub⟩ := supplied.missing missing
    have stub' : (t.function g).isUnresolved = true := by rw [kept g lt, stub]; rfl
    simp [hg, stub', le.trans ge]
  | false =>
    cases hb : binding.function? with
    | none => rfl
    | some g =>
      rw [Option.any_some]
      cases native : m.isNative with
      | false =>
        obtain ⟨_, lt, plain⟩ := supplied.bytecode native g hb
        rw [kept g lt, plain, Bool.and_false]
      | true =>
        have resolved := supplied.implemented native missing
        rw [hb] at resolved
        obtain ⟨o, ho, has⟩ := Trait.resolve?_mem resolved.symm
        rcases holders o ho _ _ g has with old | ⟨lt, plain⟩
        · simp [old.not_ge]
        · rw [kept g (lt.trans_le h.confined.functions_le),
            h.confined.function g lt (Set.notMem_empty g), plain, Bool.and_false]

/-! ### The report -/

/-- The report on a class lists the members that are bound to stubs made for it, in the order of
their declaration and the class-level ones first. As many are said to the domain, and as many
stubs are counted. -/
structure Store.ListsStubs (s t : Store) (d : DomainRef) (descriptor : ClassDescriptor)
    (c : ClassRef) (report : Report) (statics instances : Bindings) : Prop where
  verification : (t.classAt c).verification = some report
  staticBindings : (t.classAt c).staticBindings = some statics
  instanceBindings : (t.classAt c).instanceBindings = some instances
  missingNatives : report.missingNatives =
    (descriptor.staticTraits.filter (statics.isStubbed s t)).map
        (fun m => (TraitSet.static, m.name.display)) ++
      (descriptor.instanceTraits.filter (instances.isStubbed s t)).map
        fun m => (TraitSet.instance, m.name.display)
  tallies : Tallies d report.missingNatives.length report.missingNatives.length s t

namespace LinkStages

variable {x : LinkTrace}

/-- What the verifier says to the domain, and what it reports. -/
theorem verified (h : LinkStages d descriptor base scope s t c x) (lt : d.index < s.domains.size)
    (asked : (s.domain d).options.verify = true) :
    (x.checked.classAt c).verification = some (x.created.reportOf c) ∧
      Tallies d (x.created.reportOf c).missingNatives.length 0 s x.checked := by
  have prepared := h.begun.prepared
  have lt₁ := prepared.confined.domains_eq ▸ lt
  have confined := h.confined_created
  have lt₂ := confined.domains_eq ▸ lt
  have first : Tallies d 0 0 s x.prepared :=
    .of_domain (prepared.confined.domain d (Set.notMem_empty d))
  have second : Tallies d 0 0 x.prepared x.created := by
    rcases domain_of_create prepared.lt lt₁ (fun o ho => (prepared.hostTemplate_new ho).2.1)
      h.creating with same | said
    · exact .of_domain same
    · exact ⟨⟨_, congrArg Domain.diagnostics said, rfl⟩, congrArg (·.stats.stubs) said⟩
  have asked' : (x.created.domain d).options.verify = true := by rw [confined.settings d]; exact asked
  rcases exec_checkClass c lt₂ with ⟨off, _⟩ | ⟨_, _, _, _, _, run⟩ | ⟨_, _, u, emits, run⟩
  · cases asked'.symm.trans off
  · cases run.symm.trans h.checked
  · have inside := (prepared.lt.trans_le h.prepared_le.2.2).trans_le emits.confined.classes_le
    have third := Tallies.of_emits emits
    rw [Store.countP_findingsOf] at third
    rw [← (Prod.mk.inj (run.symm.trans h.checked)).2]
    refine ⟨?_, ?_⟩
    · rw [Store.classAt_modifyClass, if_pos ⟨rfl, inside⟩]
    · have last : Tallies d 0 0 u (u.modifyClass c fun k =>
          { k with verification := some (x.created.reportOf c) }) := .of_domain rfl
      have all := first.trans (second.trans (third.trans last))
      simpa only [Nat.zero_add, Nat.add_zero] using all

/-! Binding looks up the same members in the same holders as verifying does. -/

theorem descriptor_created (h : LinkStages d descriptor base scope s t c x) :
    (x.created.classAt c).descriptor = descriptor := by
  rw [h.created.classAt]
  exact h.begun.prepared.descriptor

theorem descriptor_checked (h : LinkStages d descriptor base scope s t c x)
    (lt : d.index < s.domains.size) : (x.checked.classAt c).descriptor = descriptor := by
  rw [h.classAt_checked lt]
  exact h.begun.prepared.descriptor

theorem descriptor_between (h : LinkStages d descriptor base scope s t c x)
    (lt : d.index < s.domains.size) : (x.between.classAt c).descriptor = descriptor := by
  rw [h.statics.classAt]
  exact h.descriptor_checked lt

theorem staticContext_holders (h : LinkStages d descriptor base scope s t c x)
    (lt : d.index < s.domains.size) (inner : Scope) :
    (staticContext d c inner x.checked).holders = (x.prepared.classAt c).staticHolders := by
  rw [staticContext, h.classAt_checked lt]

theorem instanceContext_holders (h : LinkStages d descriptor base scope s t c x)
    (lt : d.index < s.domains.size) (inner : Scope) :
    (instanceContext d c base inner x.between).holders =
      (x.prepared.classAt c).instanceHolders := by
  rw [instanceContext, h.statics.classAt, h.classAt_checked lt]

/-- Class-level members are installed on the class object, which is no holder of instance
members. -/
theorem instanceHolder_apart (h : LinkStages d descriptor base scope s t c x)
    (lt : d.index < s.domains.size) (ho : o ∈ (x.prepared.classAt c).instanceHolders) :
    o ∉ {o | some (x.checked.classAt c).object = some o} := by
  intro same
  have above := h.begun.prepared.instanceHolder_above ho
  have object : (x.checked.classAt c).object = o := Option.some.inj same
  rw [h.classAt_checked lt] at object
  rw [← object] at above
  exact lt_irrefl _ above

/-- The holders have the properties that the verifier saw when class-level members are bound. -/
theorem isMissing_static (h : LinkStages d descriptor base scope s t c x)
    (lt : d.index < s.domains.size) (m : Trait) (inner : Scope) :
    m.isMissing x.checked (staticContext d c inner x.checked).holders =
      m.isMissing x.created (x.created.classAt c).staticHolders := by
  obtain ⟨objects, _⟩ := heap_checkClass (h.confined_created.domains_eq ▸ lt) h.checked
  rw [h.staticContext_holders lt, h.created.classAt]
  refine m.isMissing_congr fun o _ => ?_
  rw [Store.properties, Store.object, objects]
  rfl

/-- And they have them when instance members are. -/
theorem isMissing_instance (h : LinkStages d descriptor base scope s t c x)
    (lt : d.index < s.domains.size) (closed : s.HostClosed descriptor) (m : Trait)
    (inner : Scope) :
    m.isMissing x.between (instanceContext d c base inner x.between).holders =
      m.isMissing x.created (x.created.classAt c).instanceHolders := by
  obtain ⟨objects, _⟩ := heap_checkClass (h.confined_created.domains_eq ▸ lt) h.checked
  rw [h.instanceContext_holders lt, h.created.classAt]
  refine m.isMissing_congr fun o ho => ?_
  have inside : o.index < x.checked.objects.size := by
    rw [objects]
    exact (h.holdsNoNewStub lt closed (List.mem_append_right _ ho)).1
  rw [h.statics.confined.properties o inside (h.instanceHolder_apart lt ho), Store.properties,
    Store.object, objects]
  rfl

/-- The class-level members that are bound to new stubs are those that the verifier misses. -/
theorem isStubbed_static (h : LinkStages d descriptor base scope s t c x)
    (lt : d.index < s.domains.size) (closed : s.HostClosed descriptor) {m : Trait}
    (hm : m ∈ descriptor.staticTraits) :
    x.statics.isStubbed s t m = m.isMissing x.created (x.created.classAt c).staticHolders := by
  obtain ⟨_, functions⟩ := heap_checkClass (h.confined_created.domains_eq ▸ lt) h.checked
  have statics := h.statics
  rw [h.descriptor_checked lt] at statics
  refine (statics.isStubbed_eq ?_ (fun o ho => ?_) (fun g inside => ?_)
    (ClassDescriptor.nodup_of_validate h.valid).1 hm).trans (h.isMissing_static lt m _)
  · exact h.confined_created.functions_le.trans (congrArg Array.size functions).ge
  · rw [h.staticContext_holders lt] at ho
    exact (h.holdsNoNewStub lt closed (List.mem_append_left _ ho)).2
  · have later := h.instances.confined
    rw [h.announced.keeps.function g (inside.trans_le later.functions_le),
      later.function g inside (Set.notMem_empty g)]

/-- The instance members that are bound to new stubs are those that the verifier misses. -/
theorem isStubbed_instance (h : LinkStages d descriptor base scope s t c x)
    (lt : d.index < s.domains.size) (closed : s.HostClosed descriptor) {m : Trait}
    (hm : m ∈ descriptor.instanceTraits) :
    x.instances.isStubbed s t m = m.isMissing x.created (x.created.classAt c).instanceHolders := by
  obtain ⟨objects, functions⟩ := heap_checkClass (h.confined_created.domains_eq ▸ lt) h.checked
  have instances := h.instances
  rw [h.descriptor_between lt] at instances
  refine (instances.isStubbed_eq ?_ (fun o ho => ?_) h.announced.keeps.function
    (ClassDescriptor.nodup_of_validate h.valid).2 hm).trans (h.isMissing_instance lt closed m _)
  · exact (h.confined_created.functions_le.trans (congrArg Array.size functions).ge).trans
      h.statics.confined.functions_le
  · rw [h.instanceContext_holders lt] at ho
    obtain ⟨inside, held⟩ := h.holdsNoNewStub lt closed (List.mem_append_right _ ho)
    exact held.confined (inside.trans_le (congrArg Array.size objects).ge) h.statics.confined
      (h.instanceHolder_apart lt ho) fun g => Set.notMem_empty g

/-- Binding counts a stub for each member that the verifier misses. -/
theorem tallies_bound (h : LinkStages d descriptor base scope s t c x)
    (lt : d.index < s.domains.size) (closed : s.HostClosed descriptor) :
    Tallies d 0 (x.created.reportOf c).missingNatives.length x.checked t := by
  have statics := h.statics.tallies
  have instances := h.instances.tallies
  rw [h.descriptor_checked lt, List.countP_congr fun m _ => by rw [h.isMissing_static lt],
    List.countP_eq_length_filter] at statics
  rw [h.descriptor_between lt, List.countP_congr fun m _ => by rw [h.isMissing_instance lt closed],
    List.countP_eq_length_filter] at instances
  have all := statics.trans (instances.trans h.announced.tallies)
  rw [Store.reportOf, List.length_append, List.length_map, List.length_map, Store.missingStatics,
    Store.missingInstances, h.descriptor_created]
  exact all

end LinkStages

/-- **The verifier and the binder agree.** A class is linked in a domain that asks for verification,
and the values of its host class, if it has one, refer to functions that exist. Then its report
lists exactly its members that were bound to new stubs. -/
theorem listsStubs_of_link (lt : d.index < s.domains.size)
    (asked : (s.domain d).options.verify = true)
    (closed : s.HostClosed descriptor)
    (h : exec (link d descriptor base scope) s = (.ok c, t)) :
    ∃ report statics instances, s.ListsStubs t d descriptor c report statics instances := by
  obtain ⟨x, stages⟩ := linkStages_of_link lt h
  obtain ⟨reported, said⟩ := stages.verified lt asked
  have class_ := stages.classAt lt
  have statics : descriptor.staticTraits.filter (x.statics.isStubbed s t) =
      x.created.missingStatics c := by
    rw [Store.missingStatics, stages.descriptor_created]
    exact List.filter_congr fun m hm => stages.isStubbed_static lt closed hm
  have instances : descriptor.instanceTraits.filter (x.instances.isStubbed s t) =
      x.created.missingInstances c := by
    rw [Store.missingInstances, stages.descriptor_created]
    exact List.filter_congr fun m hm => stages.isStubbed_instance lt closed hm
  refine ⟨x.created.reportOf c, x.statics, x.instances, ?_, ?_, ?_, ?_, ?_⟩
  · rw [class_]
    exact reported
  · rw [class_]
  · rw [class_]
  · rw [statics, instances]
    rfl
  · have all := said.trans (stages.tallies_bound lt closed)
    rwa [Nat.add_zero, Nat.zero_add] at all

end

/-! ### A host class with missing members -/

namespace Sample

/-- A host class with one class-level method. -/
def kit : NativeDefinition :=
  { NativeDefinition.bare "kit" with
    statics := (HolderDefinition.empty "Kit").method "greet" 0 .receiver }

/-- A class over it that declares this method, another one and a getter. -/
def kitClass : ClassDescriptor :=
  { ClassDescriptor.bare "Kit" with
    nativeId := some "kit"
    staticTraits := [⟨.plain "greet", .method (.native 1 none 0)⟩,
      ⟨.plain "wave", .method (.native 2 none 0)⟩]
    instanceTraits := [⟨.plain "size", .getter (.native 3 none 0)⟩] }

/-- A store with one domain and the host class. -/
def equipped : Store := { opened with natives := ⟨[], [("kit", kit)], false⟩ }

/-- Linking the class. -/
def linkKit : Run ClassRef := link ⟨0⟩ kitClass none (.global ⟨0⟩)

theorem hostClosed_kit : equipped.HostClosed kitClass := by
  intro id definition named found holder hh m hm g hg
  obtain rfl := Option.some.inj named
  obtain rfl := Option.some.inj (show some kit = some definition from found)
  obtain rfl : holder = kit.statics := List.mem_singleton.mp hh
  obtain rfl : m = ⟨"greet", .method 0 (.builtin .receiver)⟩ := List.mem_singleton.mp hm
  cases hg

end Sample

/-- The two members that the host lacks are reported. -/
theorem listsStubs_of_link_kit : ∃ t report statics instances,
    exec Sample.linkKit Sample.equipped = (.ok ⟨0⟩, t) ∧
      Sample.equipped.ListsStubs t ⟨0⟩ Sample.kitClass ⟨0⟩ report statics instances ∧
      report.missingNatives = [(.static, "wave"), (.instance, "size")] := by
  have run : exec Sample.linkKit Sample.equipped =
      (.ok ⟨0⟩, (exec Sample.linkKit Sample.equipped).2) :=
    exec_eq_of_toOption (by decide +kernel)
  obtain ⟨report, statics, instances, lists⟩ :=
    listsStubs_of_link (by decide +kernel) (by decide +kernel) Sample.hostClosed_kit run
  have listed : ((exec Sample.linkKit Sample.equipped).2.classAt ⟨0⟩).verification.map
      (·.missingNatives) = some [(.static, "wave"), (.instance, "size")] := by decide +kernel
  rw [lists.verification] at listed
  exact ⟨_, report, statics, instances, run, lists, Option.some.inj listed⟩

end ClassLink
