import ClassLink.Proofs.Forecast
import ClassLink.Proofs.Isolation

/-!
# Links come to what was told

What is told of a class before it is linked (`Store.forecast`) is how it looks afterwards, the
domain is told what was foretold (`Store.told`), and it counts as much as was reckoned
(`Store.counted`). The class is followed through the stages of its link: what checking finds is read
off the descriptions of its host objects, both trait sets are bound in the terms of the store from
which the link started, and the members that class objects share come last. A link that fails says
what it says when the class is created. -/

namespace ClassLink

/-- Whatever a store has, a later one has as it was, domains apart. -/
structure Store.KeepsFilled (s t : Store) : Prop extends s.Keeps t where
  properties : ∀ o : ObjectRef, o.index < s.objects.size → t.properties o = s.properties o

namespace Store.KeepsFilled

theorem refl (s : Store) : s.KeepsFilled s := ⟨.refl s, fun _ _ => rfl⟩

theorem trans {s t u : Store} (h : s.KeepsFilled t) (k : t.KeepsFilled u) : s.KeepsFilled u where
  toKeeps := h.toKeeps.trans k.toKeeps
  properties o inside := (k.properties o (inside.trans_le h.objects_le)).trans
    (h.properties o inside)

end Store.KeepsFilled

variable {s t u : Store} {cs : List ClassRef} {d : DomainRef} {descriptor : ClassDescriptor}
  {base : Option ClassRef} {scope : Scope} {c : ClassRef} {x : LinkTrace}

/-! ### Creating -/

/-- What creating a class leaves, from the store in which it is prepared. -/
theorem Begun.effects {offered : FunctionRef} (h : Begun d descriptor base scope s t c offered)
    (lt : d.index < s.domains.size) (creating : exec (create d c base offered) t = (.ok (), u)) :
    u.properties = t.properties ∧
      (∀ o, (t.classAt c).hostTemplate? t = some o → (u.classAt c).template? = some o) ∧
      u.domain d = { s.domain d with
        diagnostics := (s.domain d).diagnostics ++ s.saidFirst descriptor } := by
  have prepared := h.prepared
  obtain ⟨properties, template, domain⟩ := effects_of_create prepared.lt
    (prepared.confined.domains_eq ▸ lt) (fun o ho => (prepared.hostTemplate_new ho).2.1) creating
  refine ⟨properties, template, ?_⟩
  have name : t.className c = descriptor.display :=
    congrArg ClassDescriptor.display prepared.descriptor
  rw [domain, h.hosted.constructor, name, prepared.confined.domain d (Set.notMem_empty d)]
  rfl

namespace LinkStages

theorem properties_created (h : LinkStages d descriptor base scope s t c x)
    (lt : d.index < s.domains.size) : x.created.properties = x.prepared.properties :=
  (h.begun.effects lt h.creating).1

theorem properties_checked (h : LinkStages d descriptor base scope s t c x)
    (lt : d.index < s.domains.size) (o : ObjectRef) :
    x.checked.properties o = x.prepared.properties o := by
  have objects := (heap_checkClass (h.confined_created.domains_eq ▸ lt) h.checked).1
  rw [← h.properties_created lt, Store.properties, Store.object, objects]
  rfl

/-- Host objects carry their descriptions up to the point where members are bound. -/
theorem carries_checked (h : LinkStages d descriptor base scope s t c x)
    (lt : d.index < s.domains.size) {y : HolderDefinition} {o : ObjectRef}
    (carries : x.prepared.Carries y o) : x.checked.Carries y o := by
  have prepared := h.begun.prepared
  obtain ⟨objects, functions⟩ := heap_checkClass (h.confined_created.domains_eq ▸ lt) h.checked
  refine carries.of_eq ?_ ?_ ?_ fun g inside => ?_
  · exact carries.inside.trans_le (h.prepared_le.1.trans (congrArg Array.size objects).ge)
  · exact h.properties_checked lt o
  · exact h.prepared_le.2.1.trans (congrArg Array.size functions).ge
  · rw [Store.function, functions]
    exact isUnresolved_of_create prepared.lt (fun o ho => (prepared.hostTemplate_new ho).2.1)
      h.creating inside

/-- The template has the keys that the host class describes, or none. -/
theorem keys_template (h : LinkStages d descriptor base scope s t c x)
    (lt : d.index < s.domains.size) : (x.prepared.properties x.wiring.template).keys =
      (hostPrototype? (s.host? descriptor)).elim [] (·.keys) := by
  have described := h.begun.hosted.template
  have taken := (h.begun.effects lt h.creating).2.1
  rw [h.created.classAt] at taken
  cases own : (x.prepared.classAt c).hostTemplate? x.prepared with
  | some o =>
    rw [own] at described
    obtain rfl : x.wiring.template = o := Option.some.inj (taken o own)
    generalize hostPrototype? (s.host? descriptor) = y at described ⊢
    cases described with
    | some carries => exact carries.keys
  | none =>
    rw [own] at described
    have beyond : x.prepared.objects.size < x.wiring.template.index := by
      cases e : x.wiring.strategy with
      | takeover => cases own.symm.trans (h.created.takeover e).2.1
      | build =>
        rcases (h.created.build e).2.1 with host | beyond
        · cases own.symm.trans host
        · exact beyond
    rw [Store.properties, Store.object, Array.getElem?_eq_none beyond.le]
    generalize hostPrototype? (s.host? descriptor) = y at described ⊢
    cases described
    rfl

/-! ### Checking -/

/-- The members that the verifier misses are those that the descriptions lack. -/
theorem missing_created (h : LinkStages d descriptor base scope s t c x)
    (lt : d.index < s.domains.size) :
    x.created.missingStatics c = s.lacking descriptor .static ∧
      x.created.missingInstances c = s.lacking descriptor .instance := by
  have prepared := h.begun.prepared
  have hosted := h.begun.hosted
  have same : ∀ (m : Trait) os, m.isMissing x.created os = m.isMissing x.prepared os :=
    fun m os => m.isMissing_congr fun o _ => by rw [h.properties_created lt]
  unfold Store.missingStatics Store.missingInstances
  rw [h.descriptor_created, h.created.classAt, prepared.staticHolders, prepared.instanceHolders]
  exact ⟨List.filter_congr fun m _ => (same m _).trans (m.isMissing_eq_lacks hosted.staticHolders),
    List.filter_congr fun m _ => (same m _).trans (m.isMissing_eq_lacks hosted.instanceHolders)⟩

theorem inheritedHolders_created (h : LinkStages d descriptor base scope s t c x)
    (ordinary : descriptor.IsOrdinary) :
    x.created.inheritedHolders c = s.undeclaredHolders descriptor := by
  have hosted := h.begun.hosted
  have kind : (x.prepared.classAt c).kind ≠ .root := by
    rw [Ne, Class.kind_eq_root, h.begun.prepared.nativeId]
    exact ordinary.1
  unfold Store.inheritedHolders Store.undeclaredHolders
  rw [h.created.classAt, ← hosted.staticInherited, ← hosted.instanceInherited]
  show (if (x.prepared.classAt c).isNative && decide ((x.prepared.classAt c).kind ≠ .root) then _
    else []) = _
  rw [decide_eq_true kind, Bool.and_true, hosted.native]
  cases host : s.host? descriptor with
  | some _ => exact if_pos rfl
  | none =>
    rw [hosted.staticInherited, hosted.instanceInherited, host]
    rfl

/-- What checking finds, in both forms. -/
theorem found_created (h : LinkStages d descriptor base scope s t c x)
    (lt : d.index < s.domains.size) (hierarchy : Hierarchy s cs) (old : ∀ b, base = some b → b ∈ cs)
    (ordinary : descriptor.IsOrdinary) :
    x.created.reportOf c = s.expectedReport descriptor base ∧
      x.created.findingsOf c = s.expectedFindings descriptor base := by
  have problems :=
    hierarchy.structuralProblems_created old h.begun.prepared.toOffered h.creating
  have name : x.created.className c = descriptor.display :=
    congrArg ClassDescriptor.display h.descriptor_created
  unfold Store.reportOf Store.findingsOf
  rw [problems, name, h.inheritedHolders_created ordinary, (h.missing_created lt).1,
    (h.missing_created lt).2]
  exact ⟨rfl, rfl⟩

/-- What checking leaves: a report, if the domain asks for it, and findings. -/
theorem effects_checked (h : LinkStages d descriptor base scope s t c x)
    (lt : d.index < s.domains.size) :
    (x.checked.classAt c).verification =
        (if (s.domain d).options.verify then some (x.created.reportOf c) else none) ∧
      (x.checked.domain d).diagnostics = (s.domain d).diagnostics ++ (s.saidFirst descriptor ++
        if (s.domain d).options.verify then x.created.findingsOf c else []) ∧
      (x.checked.domain d).stats = (s.domain d).stats := by
  have domain := (h.begun.effects lt h.creating).2.2
  have inside := h.begun.prepared.lt.trans_le h.prepared_le.2.2
  have options : (x.created.domain d).options = (s.domain d).options := by rw [domain]
  have checking := exec_checkClass c (h.confined_created.domains_eq ▸ lt)
  rw [h.checked, options] at checking
  rcases checking with ⟨off, run⟩ | ⟨_, _, _, _, _, run⟩ | ⟨asked, _, u, emits, run⟩
  · have same := (Prod.mk.inj run).2
    rw [same, off, domain, if_neg Bool.false_ne_true, if_neg Bool.false_ne_true, List.append_nil]
    refine ⟨?_, rfl, rfl⟩
    rw [h.created.classAt]
    exact h.begun.hosted.unverified
  · cases run
  · have same := (Prod.mk.inj run).2
    rw [same, asked, if_pos rfl, if_pos rfl, ← List.append_assoc]
    refine ⟨?_, ?_, ?_⟩
    · rw [Store.classAt_modifyClass, if_pos ⟨rfl, emits.classes ▸ inside⟩]
    · exact emits.diagnostics.trans (by rw [domain])
    · exact emits.stats.trans (by rw [domain])

/-! ### Binding -/

/-- Members are bound in the terms of the store from which the link started. -/
theorem meets (h : LinkStages d descriptor base scope s t c x) (lt : d.index < s.domains.size)
    (linking : Linking s cs) (closed : s.HostClosed descriptor) (later : Confined (.beyond s d) s u)
    {y : BindingContext} {set : TraitSet} (domain : y.domain = d)
    (holders : List.Forall₂ u.Carries (suppliersOf (s.host? descriptor) set) y.holders)
    (parent : y.parent = (s.terms d descriptor base set).above) :
    y.Meets (s.terms d descriptor base set) u := by
  subst domain
  have keeps := later.keeps_of_beyond
  refine ⟨later.domains_eq ▸ lt, holders, parent, fun slot => ?_, fun m f given => ?_⟩
  · refine (linking.directs y.domain).slotInitial_eq linking.hierarchy keeps fun _ _ _ => ?_
    rw [later.settings y.domain]
  · have inside := closed.inside given
    refine ⟨inside.trans_le keeps.functions_le, ?_⟩
    rw [keeps.function f inside]
    rfl

/-- By the time members are bound, the objects that they are installed on exist. -/
theorem inside_checked (h : LinkStages d descriptor base scope s t c x)
    (lt : d.index < s.domains.size) :
    (x.prepared.classAt c).object.index < x.checked.objects.size ∧
      x.wiring.template.index < x.checked.objects.size := by
  have objects := (heap_checkClass (h.confined_created.domains_eq ▸ lt) h.checked).1
  rw [objects]
  exact ⟨h.begun.prepared.parts.object.2.trans_le h.prepared_le.1, h.created.template_lt⟩

/-- The class-level members are bound first. -/
theorem fills_statics (h : LinkStages d descriptor base scope s t c x)
    (lt : d.index < s.domains.size) (linking : Linking s cs) (closed : s.HostClosed descriptor) :
    Fills d (s.terms d descriptor base .static) descriptor.staticTraits
      (x.prepared.classAt c).object x.checked x.between x.statics := by
  have prepared := h.begun.prepared
  have meets : (staticContext d c (scope.push (.class c)) x.checked).Meets
      (s.terms d descriptor base .static) x.checked := by
    refine h.meets lt linking closed (h.confined_checked lt) rfl ?_ rfl
    rw [h.staticContext_holders lt, prepared.staticHolders]
    exact h.begun.hosted.staticHolders.imp fun _ _ => h.carries_checked lt
  have fills := meets.install (ClassDescriptor.nodup_of_validate h.valid).1
    (h.inside_checked lt).1 (h.agrees_checked linking.agrees _) c
    fun b k => { k with staticBindings := some b }
  have run := h.staticsRun
  have object : (x.checked.classAt c).object = (x.prepared.classAt c).object := by
    rw [h.classAt_checked lt]
  rw [installStatics, h.descriptor_checked lt, object] at run
  rwa [run] at fills

/-- The instance members are bound next. The class object, which has changed, is not among their
holders. -/
theorem fills_instances (h : LinkStages d descriptor base scope s t c x)
    (lt : d.index < s.domains.size) (linking : Linking s cs) (old : ∀ b, base = some b → b ∈ cs)
    (closed : s.HostClosed descriptor) :
    Fills d (s.terms d descriptor base .instance) descriptor.instanceTraits
      x.wiring.template x.between x.bound x.instances := by
  have prepared := h.begun.prepared
  have statics := h.statics.confined
  have holders := h.begun.hosted.instanceHolders.imp fun _ _ => h.carries_checked lt
  rw [← prepared.instanceHolders] at holders
  obtain ⟨length, held⟩ := List.forall₂_iff_zip.mp holders
  have meets : (instanceContext d c base (scope.push (.class c)) x.between).Meets
      (s.terms d descriptor base .instance) x.between := by
    refine h.meets lt linking closed (h.confined_between lt) rfl ?_ ?_
    · rw [h.instanceContext_holders lt]
      refine List.forall₂_iff_zip.mpr ⟨length, fun mem => (held mem).later statics ?_ fun g =>
        Set.notMem_empty g⟩
      exact h.instanceHolder_apart lt (List.of_mem_zip mem).2
    · cases base with
      | none => rfl
      | some b =>
        have inside := linking.hierarchy.inside (old b rfl)
        show (x.between.classAt b).instanceBindings = _
        rw [(h.confined_between lt).classAt b inside inside.not_ge]
        rfl
  have fills := meets.install (ClassDescriptor.nodup_of_validate h.valid).2
    ((h.inside_checked lt).2.trans_le statics.objects_le) (h.agrees_between linking.agrees _) c
    fun b k => { k with instanceBindings := some b }
  have run := h.instancesRun
  rw [installInstances, h.descriptor_between lt, h.template?_between lt] at run
  rwa [run] at fills

/-! ### Sharing -/

theorem object_eq (h : LinkStages d descriptor base scope s t c x)
    (lt : d.index < s.domains.size) :
    (t.classAt c).object = (x.prepared.classAt c).object := by
  rw [h.classAt lt, h.created.classAt]

theorem kind_eq_ordinary (h : LinkStages d descriptor base scope s t c x)
    (lt : d.index < s.domains.size) (ordinary : descriptor.IsOrdinary) :
    (t.classAt c).kind = .ordinary := by
  have native : (t.classAt c).nativeId = descriptor.nativeId := by
    rw [h.classAt lt, h.created.classAt]
    exact h.begun.prepared.nativeId
  rw [Class.kind, native, if_neg ordinary.1, if_neg ordinary.2]

/-- The class that is linked is given the members that class objects share. -/
theorem sharing?_ordinary (h : LinkStages d descriptor base scope s t c x)
    (lt : d.index < s.domains.size) (linking : Linking s cs) (ordinary : descriptor.IsOrdinary) :
    x.bound.sharing? d c x.instances =
      (s.shared? d).map fun b => (b, (x.prepared.classAt c).object) := by
  have kind : (t.classAt c).kind ≠ .ofClasses := by
    rw [h.kind_eq_ordinary lt ordinary]
    exact ClassKind.noConfusion
  rw [h.sharing?_eq lt linking, if_neg kind, h.object_eq lt]
  rfl

/-- Once its members are bound, the class object has its own keys. -/
theorem keys_object_bound (h : LinkStages d descriptor base scope s t c x)
    (lt : d.index < s.domains.size) (linking : Linking s cs) (closed : s.HostClosed descriptor) :
    (x.bound.properties (x.prepared.classAt c).object).keys = s.ownKeys d descriptor base := by
  have inside := (h.inside_checked lt).1
  have apart : (x.prepared.classAt c).object ∉
      {o | (x.between.classAt c).template? = some o} := by
    rw [h.template?_between lt]
    exact fun same => h.object_lt_template.ne (congrArg ObjectRef.index (Option.some.inj same).symm)
  rw [h.instances.confined.properties _ (inside.trans_le h.statics.confined.objects_le) apart,
    (h.fills_statics lt linking closed).keys, h.properties_checked lt, h.begun.hosted.objectKeys]
  rfl

/-- Then the members that class objects share are given to it, which are the last that come. -/
theorem keys_object (h : LinkStages d descriptor base scope s t c x) (lt : d.index < s.domains.size)
    (linking : Linking s cs) (closed : s.HostClosed descriptor) (ordinary : descriptor.IsOrdinary) :
    (t.properties (t.classAt c).object).keys = (s.forecast d descriptor base).objectKeys := by
  have inside : (x.prepared.classAt c).object.index < x.bound.objects.size :=
    (h.inside_checked lt).1.trans_le
      (h.statics.confined.objects_le.trans h.instances.confined.objects_le)
  have own := h.keys_object_bound lt linking closed
  rw [h.object_eq lt, h.properties_eq, shareClassMembers_run, h.sharing?_ordinary lt linking ordinary,
    Store.forecast]
  cases s.shared? d with
  | none => exact own
  | some shared =>
    show (((shared.applyTo d _ .append).run x.bound).2.properties _).keys = _
    rw [shared.properties_applyTo, if_pos ⟨rfl, inside⟩,
      shared.keys_applied_append (h.agrees_bound linking.agrees _), own]
    rfl

/-- The template has the keys of the host class, and those of its members. -/
theorem keys_template_linked (h : LinkStages d descriptor base scope s t c x)
    (lt : d.index < s.domains.size) (linking : Linking s cs) (old : ∀ b, base = some b → b ∈ cs)
    (closed : s.HostClosed descriptor) (ordinary : descriptor.IsOrdinary) :
    some (t.properties x.wiring.template).keys = (s.forecast d descriptor base).templateKeys := by
  have apart : (x.prepared.classAt c).object ≠ x.wiring.template :=
    fun same => h.object_lt_template.ne (congrArg ObjectRef.index same)
  have last : t.properties x.wiring.template = x.bound.properties x.wiring.template := by
    rw [h.properties_eq, shareClassMembers_run, h.sharing?_ordinary lt linking ordinary]
    cases s.shared? d with
    | none => rfl
    | some shared => exact (shared.properties_applyTo ..).trans (if_neg fun same => apart same.1)
  have first : x.between.properties x.wiring.template =
      x.prepared.properties x.wiring.template := by
    refine (h.statics.confined.properties _ (h.inside_checked lt).2 fun same => ?_).trans
      (h.properties_checked lt _)
    rw [h.classAt_checked lt] at same
    exact apart (Option.some.inj same)
  rw [last, (h.fills_instances lt linking old closed).keys, first, h.keys_template lt]
  rfl

/-! ### What a link comes to -/

/-- The class looks as it was told, and goes on doing so while nothing that exists is written. -/
theorem outline_eq (h : LinkStages d descriptor base scope s t c x) (lt : d.index < s.domains.size)
    (linking : Linking s cs) (old : ∀ b, base = some b → b ∈ cs) (closed : s.HostClosed descriptor)
    (ordinary : descriptor.IsOrdinary) (kept : t.KeepsFilled u) :
    u.outline c = s.forecast d descriptor base := by
  have finished := h.finished lt fun b hb => linking.hierarchy.inside (old b hb)
  have class_ := h.classAt lt
  have template : (t.classAt c).template? = some x.wiring.template := finished.template?
  have later := h.instances.confined
  have ending := h.announced.keeps
  have functions : ∀ g : FunctionRef, g.index < x.bound.functions.size →
      u.function g = x.bound.function g := fun g inside =>
    (kept.function g (inside.trans_le ending.functions_le)).trans (ending.function g inside)
  have functions_le := ending.functions_le.trans kept.functions_le
  have statics := (h.fills_statics lt linking closed).outlined.later
    (later.functions_le.trans functions_le) fun g inside =>
      (functions g (inside.trans_le later.functions_le)).trans
        (later.function g inside (Set.notMem_empty g))
  have instances := (h.fills_instances lt linking old closed).outlined.later functions_le functions
  unfold Store.outline
  rw [kept.classAt c finished.inside, kept.properties _ finished.object_inside, template,
    Option.map_some, kept.properties _ finished.template_inside,
    h.keys_object lt linking closed ordinary, h.keys_template_linked lt linking old closed ordinary,
    class_]
  refine (ClassOutline.mk.injEq ..).mpr ⟨?_, congrArg some statics.outline_eq,
    congrArg some instances.outline_eq, rfl, rfl⟩
  show (x.checked.classAt c).verification = _
  rw [(h.effects_checked lt).1, (h.found_created lt linking.hierarchy old ordinary).1]

/-- Entering the class says nothing and counts nothing. -/
theorem domain_ending (h : LinkStages d descriptor base scope s t c x) :
    (t.domain d).diagnostics =
        (((shareClassMembers d c x.instances).run x.bound).2.domain d).diagnostics ∧
      (t.domain d).stats =
        (((shareClassMembers d c x.instances).run x.bound).2.domain d).stats := by
  rw [h.ending, domain_announceClass]
  split <;> exact ⟨rfl, rfl⟩

/-- What the domain is told when a link succeeds, and what it counts. -/
theorem effects_linked (h : LinkStages d descriptor base scope s t c x)
    (lt : d.index < s.domains.size) (linking : Linking s cs) (old : ∀ b, base = some b → b ∈ cs)
    (closed : s.HostClosed descriptor) (ordinary : descriptor.IsOrdinary) :
    (t.domain d).diagnostics = (s.domain d).diagnostics ++ (s.saidFirst descriptor ++
        if (s.domain d).options.verify then s.expectedFindings descriptor base else []) ∧
      (t.domain d).stats = (s.domain d).stats + (s.countsOf d descriptor base .static +
        s.countsOf d descriptor base .instance + s.sharedCounts d descriptor base) := by
  have statics := h.fills_statics lt linking closed
  have instances := h.fills_instances lt linking old closed
  obtain ⟨_, said, counted⟩ := h.effects_checked lt
  rw [(h.found_created lt linking.hierarchy old ordinary).2] at said
  have boundSaid := (instances.diagnostics.trans statics.diagnostics).trans said
  have boundCounted : (x.bound.domain d).stats = (s.domain d).stats +
      s.countsOf d descriptor base .static + s.countsOf d descriptor base .instance := by
    rw [instances.stats, statics.stats, counted, List.countP_eq_length_filter,
      List.countP_eq_length_filter]
    rfl
  have lt₁ : d.index < x.bound.domains.size := (h.confined_bound lt).domains_eq ▸ lt
  obtain ⟨sameSaid, sameCounted⟩ := h.domain_ending
  rw [sameSaid, sameCounted, shareClassMembers_run, h.sharing?_ordinary lt linking ordinary,
    Store.sharedCounts]
  cases s.shared? d with
  | none =>
    refine ⟨boundSaid, boundCounted.trans ?_⟩
    rw [add_assoc]
    rfl
  | some shared =>
    show (((shared.applyTo d _ .append).run x.bound).2.domain d).diagnostics = _ ∧
      (((shared.applyTo d _ .append).run x.bound).2.domain d).stats = _
    rw [domain_applyTo _ _ _ lt₁]
    refine ⟨boundSaid, ?_⟩
    rw [Domain.stats_countTable, boundCounted, shared.length_pending,
      h.keys_object_bound lt linking closed, ← add_assoc, ← add_assoc]
    rfl

end LinkStages

/-- A link came to what was told. -/
structure Store.Fulfils (s t : Store) (d : DomainRef) (descriptor : ClassDescriptor)
    (base : Option ClassRef) (r : Except Fault ClassRef) : Prop where
  /-- The class looks as expected from then on. -/
  outcome : ∀ u, t.KeepsFilled u → r.map u.outline = s.expected d descriptor base
  diagnostics : (t.domain d).diagnostics = (s.domain d).diagnostics ++ s.told d descriptor base
  stats : (t.domain d).stats = (s.domain d).stats + s.counted d descriptor base

/-- A link that fails says what it says when the class is created, if it comes that far. -/
theorem effects_of_failed_link {e : Fault} (linking : Linking s cs) (lt : d.index < s.domains.size)
    (old : ∀ b, base = some b → b ∈ cs) (fault : s.linkFault? d descriptor base = some e)
    (failed : exec (link d descriptor base scope) s = (.error e, t)) :
    (t.domain d).diagnostics = (s.domain d).diagnostics ++ s.told d descriptor base ∧
      (t.domain d).stats = (s.domain d).stats := by
  rw [Store.told, fault]
  cases valid : descriptor.validate with
  | error e' =>
    rw [exec_link, valid] at failed
    obtain rfl := (Prod.mk.inj failed).2
    exact ⟨(List.append_nil _).symm, rfl⟩
  | ok _ =>
    cases missing : s.missingHost? descriptor with
    | some id =>
      rw [exec_link, valid] at failed
      have run := (exec_bind ..).symm.trans failed
      rw [exec_allocateFor_of_missing missing] at run
      obtain rfl := (Prod.mk.inj run).2
      exact ⟨(List.append_nil _).symm, rfl⟩
    | none =>
      obtain ⟨c, s₀, run, allocated⟩ := allocateFor_ok missing
      have offered := offered_of_allocated (makesNew_synthesize d) base scope allocated
      obtain ⟨u, created⟩ :=
        offered.create_ok d (linking.hierarchy.finalized old offered.confined)
      have begun : Begun d descriptor base scope s _ c _ := ⟨s₀, run, rfl⟩
      have domain := (begun.effects lt created).2.2
      rw [exec_link_of_created valid run created] at failed
      rcases linking.hierarchy.checkClass_created lt old offered created with
        ⟨p, _, _, _, checked⟩ | ⟨_, v, checked⟩ <;> rw [checked] at failed
      · obtain rfl := (Prod.mk.inj failed).2
        rw [domain]
        simp
      · cases failed

/-- **Links come to what was told.** In a store reached by linking, over none or a class that was
linked, the link of a class that is neither the root nor the class of class objects comes to the
fault or to the class that is expected, and the domain is told and counts what is expected. -/
theorem fulfils_link (linking : Linking s cs) (lt : d.index < s.domains.size)
    (old : ∀ b, base = some b → b ∈ cs) (closed : s.HostClosed descriptor)
    (ordinary : descriptor.IsOrdinary) (scope : Scope) :
    s.Fulfils (exec (link d descriptor base scope) s).2 d descriptor base
      (exec (link d descriptor base scope) s).1 := by
  rcases linking.hierarchy.link_outcome lt old descriptor scope with
    ⟨e, t, fault, run⟩ | ⟨fault, c, t, run⟩ <;> rw [run]
  · obtain ⟨said, counted⟩ := effects_of_failed_link linking lt old fault run
    refine ⟨fun _ _ => by rw [Store.expected, fault]; rfl, said, ?_⟩
    rw [Store.counted, fault]
    exact counted
  · obtain ⟨x, stages⟩ := linkStages_of_link lt run
    have named : s.missingHost? descriptor = none := by
      rw [Store.linkFault?, stages.valid] at fault
      cases missing : s.missingHost? descriptor with
      | none => rfl
      | some id => rw [missing] at fault; cases fault
    obtain ⟨said, counted⟩ := stages.effects_linked lt linking old closed ordinary
    refine ⟨fun u kept => ?_, ?_, ?_⟩
    · rw [Store.expected, fault]
      exact congrArg Except.ok (stages.outline_eq lt linking old closed ordinary kept)
    · rw [said, Store.told, stages.valid, named, fault]
      simp
    · rw [counted, Store.counted, fault]
      rfl

end ClassLink
