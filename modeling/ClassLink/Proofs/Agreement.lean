import ClassLink.Proofs.Appending
import ClassLink.Proofs.Directories

/-!
# Every object lists its keys

The map of an object and its list of keys agree in every store that is reached by linking
(`Linking.agrees`). Linking writes properties in few ways: an object starts without any, the members
of a host object are defined one by one, and tables of members are installed; each keeps the
agreement of one table (`PropertyTable.Agrees`). An operation is *tidy* if it leaves a store that
agrees where it finds one, whether it succeeds or fails (`Tidy`, `TidyRun`). Sequences and loops of
tidy operations are tidy, so linking is, by its stages.
-/

namespace ClassLink

/-- The keys of every object are listed. -/
def Store.Agrees (s : Store) : Prop := ∀ o, (s.properties o).Agrees

namespace Store.Agrees

variable {s t : Store} (h : s.Agrees)
include h

theorem of_properties (same : t.properties = s.properties) : t.Agrees := fun o => by
  rw [same]
  exact h o

theorem of_objects (same : t.objects = s.objects) : t.Agrees := fun o => by
  rw [Store.properties, Store.object, same]
  exact h o

theorem newObject (parent : Option ObjectRef) : ((newObject parent).run s).2.Agrees :=
  h.of_properties (properties_newObject ..)

theorem modifyProperties (o : ObjectRef) {f : PropertyTable → PropertyTable}
    (kept : ∀ t : PropertyTable, t.Agrees → (f t).Agrees) : (s.modifyProperties o f).Agrees := by
  intro x
  rw [s.properties_modifyProperties]
  split
  · exact kept _ (h x)
  · exact h x

theorem modifyFunction (g : FunctionRef) (f : Function → Function) :
    (s.modifyFunction g f).Agrees := h.of_objects rfl

theorem modifyClass (c : ClassRef) (f : Class → Class) : (s.modifyClass c f).Agrees :=
  h.of_objects rfl

theorem modifyDomain (d : DomainRef) (f : Domain → Domain) : (s.modifyDomain d f).Agrees :=
  h.of_objects rfl

theorem setParent (o : ObjectRef) (parent : Option ObjectRef) : (s.setParent o parent).Agrees :=
  h.of_properties (properties_setParent ..)

theorem setOwner (o : ObjectRef) (c : ClassRef) : (s.setOwner o c).Agrees :=
  h.of_properties (properties_setOwner ..)

theorem applyTo (b : Bindings) (d : DomainRef) (o : ObjectRef) (mode : ApplyMode) :
    ((b.applyTo d o mode).run s).2.Agrees := fun x => by
  rw [b.properties_applyTo]
  split
  · exact b.agrees_applied mode (h x)
  · exact h x

end Store.Agrees

/-- What agrees is left so. -/
def Tidy {α : Type} (x : Action α) : Prop := ∀ ⦃s : Store⦄, s.Agrees → (x.run s).2.Agrees

/-- What agrees is left so, also by a failure. -/
def TidyRun {α : Type} (x : Run α) : Prop := ∀ ⦃s : Store⦄, s.Agrees → (exec x s).2.Agrees

section
variable {α β : Type}

namespace Tidy

theorem pure (a : α) : Tidy (Pure.pure a) := fun _ h => h

theorem bind {x : Action α} {f : α → Action β} (first : Tidy x) (next : ∀ a, Tidy (f a)) :
    Tidy (x >>= f) :=
  fun _ h => next _ (first h)

theorem map {x : Action α} (h : Tidy x) (f : α → β) : Tidy (f <$> x) := h.bind fun a => .pure (f a)

theorem get_bind {f : Store → Action β} (h : ∀ s, Tidy (f s)) : Tidy (get >>= f) :=
  fun s agrees => h s agrees

theorem modify {g : Store → Store} (h : ∀ s : Store, s.Agrees → (g s).Agrees) : Tidy (modify g) :=
  fun s agrees => h s agrees

theorem newObject (parent : Option ObjectRef) : Tidy (newObject parent) := fun _ h =>
  h.newObject parent

theorem newFunction (f : Function) : Tidy (newFunction f) := fun _ h => h.of_objects rfl

theorem newClass (k : Class) : Tidy (newClass k) := fun _ h => h.of_objects rfl

theorem log (r : LogRecord) : Tidy (log r) := fun _ h => h.of_objects rfl

theorem emit (d : DomainRef) (x : Diagnostic) : Tidy (emit d x) := fun _ h => h.of_objects rfl

theorem forM {xs : List α} {f : α → Action Unit} (h : ∀ a, Tidy (f a)) : Tidy (xs.forM f) := by
  induction xs with
  | nil => exact .pure ()
  | cons a xs ih => exact (h a).bind fun _ => ih

theorem mapM {xs : List α} {f : α → Action β} (h : ∀ a, Tidy (f a)) : Tidy (xs.mapM f) := by
  induction xs with
  | nil => exact .pure []
  | cons a xs ih =>
    rw [List.mapM_cons]
    exact (h a).bind fun b => ih.bind fun bs => .pure (b :: bs)

theorem foldlM {xs : List α} {f : β → α → Action β} (h : ∀ b a, Tidy (f b a)) (b : β) :
    Tidy (xs.foldlM f b) := by
  induction xs generalizing b with
  | nil => exact .pure b
  | cons a xs ih =>
    rw [List.foldlM_cons]
    exact (h b a).bind ih

end Tidy

namespace TidyRun

theorem pure (a : α) : TidyRun (Pure.pure a) := fun _ h => h

theorem throw (e : Fault) : TidyRun (throw e : Run α) := fun _ h => h

theorem lift {x : Action α} (h : Tidy x) : TidyRun (liftM x) := fun _ agrees => h agrees

theorem modify {g : Store → Store} (h : ∀ s : Store, s.Agrees → (g s).Agrees) :
    TidyRun (modify g) :=
  fun s agrees => h s agrees

theorem bind {x : Run α} {f : α → Run β} (first : TidyRun x) (next : ∀ a, TidyRun (f a)) :
    TidyRun (x >>= f) :=
  fun _ h => exec_bind_rel (r := fun s t => s.Agrees → t.Agrees) (fun st tu h => tu (st h))
    (fun h => first h) (fun a _ _ h => next a h) h

theorem get_bind {f : Store → Run β} (h : ∀ s, TidyRun (f s)) : TidyRun (get >>= f) :=
  fun s agrees => h s agrees

theorem forIn {xs : List α} {f : α → Action Unit} (h : ∀ a, Tidy (f a)) :
    TidyRun (forIn xs PUnit.unit fun a _ => do
      liftM (f a); Pure.pure (ForInStep.yield PUnit.unit)) := by
  intro s agrees
  rw [exec_forIn_lift]
  exact List.foldlRecOn (motive := Store.Agrees) xs _ agrees fun _ hu a _ => h a hu

theorem mapM {xs : List α} {f : α → Run β} (h : ∀ a, TidyRun (f a)) : TidyRun (xs.mapM f) := by
  induction xs with
  | nil => exact .pure []
  | cons a xs ih =>
    rw [List.mapM_cons]
    exact (h a).bind fun b => ih.bind fun bs => .pure (b :: bs)

end TidyRun

end

/-! ### Host objects -/

theorem HolderMember.tidy_install (m : HolderMember) (label : String) (o : ObjectRef) :
    Tidy (m.install label o) := by
  have defines : ∀ {g : PropertyTable → PropertyTable},
      (∀ t : PropertyTable, t.Agrees → (g t).Agrees) → Tidy (modify (·.modifyProperties o g)) :=
    fun kept => .modify fun _ h => h.modifyProperties o kept
  unfold HolderMember.install
  cases m.body with
  | method arity g =>
    exact (Tidy.newFunction _).bind fun f => defines fun _ h => h.put m.name _
  | getter g => exact (Tidy.newFunction _).bind fun f => defines fun _ h => h.put m.name _
  | setter g => exact (Tidy.newFunction _).bind fun f => defines fun _ h => h.put m.name _
  | value x => exact defines fun _ h => h.put m.name _

theorem HolderDefinition.tidy_instantiate (x : HolderDefinition) : Tidy x.instantiate :=
  (Tidy.newObject none).bind fun o =>
    (Tidy.forM fun m => m.tidy_install x.label o).bind fun _ => .pure o

theorem Holders.tidy_instantiate (x : Holders HolderDefinition) : Tidy (Holders.instantiate x) := by
  cases x with
  | inherited => exact .pure _
  | own hs => exact (Tidy.mapM fun x => x.tidy_instantiate).bind fun _ => .pure _

theorem ConstructorDefinition.tidy_instantiate (x : ConstructorDefinition) : Tidy x.instantiate :=
  x.prototype.tidy_instantiate.bind fun _ => .newFunction _

theorem NativeDefinition.tidy_materialize (x : NativeDefinition) : Tidy x.materialize := by
  have natives : ∀ parts : Holders ObjectRef → Holders ObjectRef → NativeParts, Tidy (do
      let statics ← x.staticNatives.instantiate
      let instances ← x.instanceNatives.instantiate
      return parts statics instances) := fun parts =>
    x.staticNatives.tidy_instantiate.bind fun a =>
      x.instanceNatives.tidy_instantiate.bind fun b => .pure (parts a b)
  unfold NativeDefinition.materialize
  refine x.statics.tidy_instantiate.bind fun classObject => ?_
  cases x.constructor with
  | none => exact (Tidy.pure none).bind fun f => natives _
  | some c => exact (c.tidy_instantiate.map some).bind fun f => natives _

/-! ### Classes -/

theorem tidy_allocate (k : Class) : Tidy (allocate k) :=
  (Tidy.newClass k).bind fun c => (Tidy.modify fun _ h => h.setOwner k.object c).bind
    fun _ => .pure c

theorem tidyRun_allocateFor (descriptor : ClassDescriptor) : TidyRun (allocateFor descriptor) := by
  unfold allocateFor
  cases descriptor.nativeId with
  | none => exact .lift ((Tidy.newObject none).bind fun _ => tidy_allocate _)
  | some id =>
    refine .get_bind fun s => ?_
    cases s.natives.lookup id with
    | none => exact .throw _
    | some x => exact (TidyRun.lift x.tidy_materialize).bind fun _ => .lift (tidy_allocate _)

theorem tidy_synthesize (d : DomainRef) (m : Method) (scope : Scope) (checksInit : Bool) :
    Tidy (synthesize d m scope checksInit) :=
  .get_bind fun _ => .newFunction _

theorem tidy_prepareClass (d : DomainRef) (descriptor : ClassDescriptor) (base : Option ClassRef)
    (scope : Scope) (c : ClassRef) : Tidy (prepareClass d descriptor base scope c) := by
  intro s h
  obtain ⟨r, g, run⟩ := prepareClass_run d descriptor base scope c s
  rw [run]
  exact h.of_objects rfl

theorem tidy_buildTemplates (k : Class) (base : Option ClassRef) (parent : Option ObjectRef) :
    Tidy (buildTemplates k base parent) := by
  refine (Tidy.newObject parent).bind fun delegate => .get_bind fun s => ?_
  cases k.constructor.bind s.template with
  | some template => exact (Tidy.modify fun _ h => h.setParent template _).bind fun _ => .pure _
  | none => exact (Tidy.newObject _).bind fun _ => .pure _

theorem tidyRun_configure (c : ClassRef) (base : Option ClassRef) :
    TidyRun (configure c base) := by
  intro s h
  rw [exec_configure]
  split
  · exact h
  rcases fixedTemplate? s (s.classAt c) with e | (_ | template)
  · exact h
  · rcases delegateParent? s (s.classAt c) base with e | parent
    · exact h
    · exact (tidy_buildTemplates (s.classAt c) base parent h).modifyClass c _
  · exact h.modifyClass c _

theorem tidy_setConstructor (d : DomainRef) (c : ClassRef) (f : FunctionRef) :
    Tidy (setConstructor d c f) := by
  refine .get_bind fun s => ?_
  dsimp only
  cases (s.classAt c).constructor with
  | none => exact (Tidy.modify fun _ h => h.modifyClass c _).bind fun _ => .pure true
  | some g => exact (Tidy.emit d _).bind fun _ => .pure false

theorem tidyRun_setTemplate (f : FunctionRef) (o : ObjectRef) : TidyRun (setTemplate f o) := by
  intro s h
  rw [exec_setTemplate]
  split
  · exact h.modifyFunction f _
  split <;> exact h

theorem tidyRun_settleClass (d : DomainRef) (c : ClassRef) (offered : FunctionRef) :
    TidyRun (settleClass d c offered) := by
  have finish : ∀ f w, TidyRun (finishClass c f w) := fun f w => by
    unfold finishClass
    exact (TidyRun.modify fun _ h => h.modifyClass c _).bind fun _ =>
      (TidyRun.modify fun _ h => h.modifyFunction f _).bind fun _ =>
      (tidyRun_setTemplate f w.template).bind fun _ =>
      (TidyRun.modify fun _ h => h.setOwner w.template c).bind fun _ =>
      .modify fun _ h => h.setOwner w.delegate c
  refine (TidyRun.lift (tidy_setConstructor ..)).bind fun _ => .get_bind fun s => ?_
  dsimp only
  split
  · exact .throw _
  · exact .throw _
  · exact finish _ _

theorem tidyRun_create (d : DomainRef) (c : ClassRef) (base : Option ClassRef)
    (offered : FunctionRef) : TidyRun (create d c base offered) := by
  intro s h
  rw [exec_create]
  split
  · exact h
  split
  · exact h
  · exact (tidyRun_configure c base).bind (fun _ => tidyRun_settleClass d c offered) h

theorem tidyRun_verifyClass (d : DomainRef) (c : ClassRef) : TidyRun (verifyClass d c) := by
  have missing : ∀ name set m, TidyRun (reportMissing d name set m : Run (TraitSet × String)) :=
    fun _ _ _ => .lift ((Tidy.emit d _).bind fun _ => .pure _)
  refine .get_bind fun s => ?_
  dsimp only
  split
  · exact .throw _
  · exact (TidyRun.forIn fun _ => Tidy.emit d _).bind fun _ =>
      (TidyRun.forIn fun _ => Tidy.emit d _).bind fun _ =>
      (TidyRun.mapM (missing _ _)).bind fun _ => (TidyRun.mapM (missing _ _)).bind fun _ =>
      (TidyRun.lift (Tidy.log _)).bind fun _ => .pure _

theorem tidyRun_checkClass (d : DomainRef) (c : ClassRef) : TidyRun (checkClass d c) := by
  refine .get_bind fun s => ?_
  split
  · exact (tidyRun_verifyClass d c).bind fun _ => .modify fun _ h => h.modifyClass c _
  · exact .pure ()

/-! ### Members -/

theorem tidy_resolveBinding (m : Trait) (holders : List ObjectRef) :
    Tidy (resolveBinding m holders) := by
  refine .get_bind fun s => ?_
  cases m.resolve? s holders with
  | none => exact (Tidy.log _).bind fun _ => .pure none
  | some f => exact .pure (some f)

namespace BindingContext

variable (x : BindingContext)

theorem tidy_bindFunction (m : Trait) (method : Method) :
    Tidy (x.bindFunction (synthesize x.domain) m method) := by
  unfold bindFunction
  split
  · refine (tidy_resolveBinding m x.holders).bind fun found => ?_
    cases found with
    | some f => exact .pure f
    | none =>
      have counts : Tidy (modify (·.modifyDomain x.domain Domain.countStub)) :=
        .modify fun _ h => h.modifyDomain x.domain _
      exact (Tidy.log _).bind fun _ => counts.bind fun _ => .newFunction _
  · exact tidy_synthesize ..

theorem tidy_bind (used : UInt32) (m : Trait) :
    Tidy (x.bind (synthesize x.domain) used m) := by
  unfold bind
  cases m.declaration with
  | method f => exact (x.tidy_bindFunction m f).bind fun _ => .pure _
  | getter f => exact (x.tidy_bindFunction m f).bind fun _ => .pure _
  | setter f => exact (x.tidy_bindFunction m f).bind fun _ => .pure _
  | slot slot => exact .get_bind fun _ => .pure _

theorem tidy_install (traits : List Trait) (target : Option ObjectRef) (c : ClassRef)
    (keep : Bindings → Class → Class) : Tidy (x.install traits target c keep) := by
  have built : Tidy (x.build traits) :=
    (Tidy.foldlM (fun table m => (x.tidy_bind _ m).bind fun _ => .pure _) _).bind fun _ => .pure _
  refine built.bind fun b => ?_
  have kept : Tidy (modify (·.modifyClass c (keep b))) := .modify fun _ h => h.modifyClass c _
  cases target with
  | none => exact kept.bind fun _ => .pure b
  | some o =>
    have applied : Tidy (b.applyTo x.domain o .replace) := fun _ h => h.applyTo b x.domain o .replace
    exact applied.bind fun _ => kept.bind fun _ => .pure b

end BindingContext

theorem tidy_shareClassMembers (d : DomainRef) (c : ClassRef) (b : Bindings) :
    Tidy (shareClassMembers d c b) := by
  intro s h
  rw [shareClassMembers_run]
  cases s.sharing? d c b with
  | none => exact h
  | some r => exact h.applyTo r.1 d r.2 .append

/-! ### Linking -/

theorem tidy_announceClass (d : DomainRef) (c : ClassRef) : Tidy (announceClass d c) := fun _ h =>
  h.of_objects (objects_announceClass ..)

theorem tidy_bindMembers (d : DomainRef) (c : ClassRef) (base : Option ClassRef) (inner : Scope) :
    Tidy (bindMembers d c base inner) := by
  have statics : Tidy (bindStatics d c inner) := fun s h => by
    rw [bindStatics_run]
    exact (staticContext d c inner s).tidy_install _ _ c _ h
  have instances : Tidy (bindInstances d c base inner) := fun s h => by
    rw [bindInstances_run]
    exact (instanceContext d c base inner s).tidy_install _ _ c _ h
  exact statics.bind fun _ => instances.bind fun b => tidy_shareClassMembers d c b

/-- **Linking is tidy.** -/
theorem tidyRun_link (d : DomainRef) (descriptor : ClassDescriptor) (base : Option ClassRef)
    (scope : Scope) : TidyRun (link d descriptor base scope) := by
  intro s h
  rw [exec_link]
  split
  · exact h
  refine (tidyRun_allocateFor descriptor).bind (fun c => ?_) h
  exact (TidyRun.lift (tidy_prepareClass ..)).bind fun offered =>
    (tidyRun_create d c base offered).bind fun _ => (tidyRun_checkClass d c).bind fun _ =>
    (TidyRun.lift (tidy_bindMembers ..)).bind fun _ =>
    (TidyRun.lift (tidy_announceClass d c)).bind fun _ => .pure c

/-- **Every object lists its keys** in a store reached by linking. -/
theorem Linking.agrees {s : Store} {cs : List ClassRef} (h : Linking s cs) : s.Agrees := by
  induction h with
  | start natives => exact fun _ => .empty
  | domain options synthesizer _ ih => exact ih.newObject none
  | register _ run ih =>
    obtain ⟨natives, log, rfl⟩ := store_registerNative run
    exact ih.of_objects rfl
  | @linked _ _ _ d descriptor base scope _ _ _ _ run ih =>
    have left := tidyRun_link d descriptor base scope ih
    rwa [run] at left
  | @failed _ _ _ d descriptor base scope _ _ _ _ run ih =>
    have left := tidyRun_link d descriptor base scope ih
    rwa [run] at left

/-! ### On the way -/

namespace LinkStages

variable {d : DomainRef} {descriptor : ClassDescriptor} {base : Option ClassRef} {scope : Scope}
  {s t : Store} {c : ClassRef} {x : LinkTrace}
  (h : LinkStages d descriptor base scope s t c x) (agrees : s.Agrees)
include h agrees

theorem agrees_prepared : x.prepared.Agrees := by
  obtain ⟨u, allocated, run⟩ := h.begun
  have first := tidyRun_allocateFor descriptor agrees
  rw [allocated] at first
  have second := tidy_prepareClass d descriptor base scope c first
  rwa [run] at second

theorem agrees_checked : x.checked.Agrees := by
  have created := tidyRun_create d c base x.offered (h.agrees_prepared agrees)
  rw [h.creating] at created
  have checked := tidyRun_checkClass d c created
  rwa [h.checked] at checked

theorem agrees_between : x.between.Agrees := by
  have statics := (staticContext d c (scope.push (.class c)) x.checked).tidy_install
    (x.checked.classAt c).descriptor.staticTraits (some (x.checked.classAt c).object) c
    (fun b k => { k with staticBindings := some b }) (h.agrees_checked agrees)
  rwa [← installStatics, h.staticsRun] at statics

/-- When members are shared every object lists its keys. -/
theorem agrees_bound : x.bound.Agrees := by
  have instances := (instanceContext d c base (scope.push (.class c)) x.between).tidy_install
    (x.between.classAt c).descriptor.instanceTraits (x.between.classAt c).template? c
    (fun b k => { k with instanceBindings := some b }) (h.agrees_between agrees)
  rwa [← installInstances, h.instancesRun] at instances

end LinkStages

end ClassLink
