import ClassLink.Proofs.Installing
import ClassLink.Proofs.Lockstep

/-!
# What linking does not look at

Every stage of a link but the check is blind to reports, options and diagnostics. Each of them
reads the store in few places: a class for anything but its report, a domain for its synthesizer,
its directory and the two classes it remembers. Where it does, the reading is shown to be the same
in stores that are alike (`Alike.fixedTemplate?`, `Alike.slotInitial`, `Alike.sharing?` and so on),
and what follows is a sequence of blind operations. The log is the exception: whether a finished
class is logged is an option, so logs agree only if that option does (`blind_announceClass`).
-/

namespace ClassLink

variable {v : Veil}

/-! ### Allocating -/

theorem HolderMember.blind_install (m : HolderMember) (label : String) (o : ObjectRef) :
    Blind v (m.install label o) := by
  have defines : ∀ g : PropertyTable → PropertyTable, Blind v (modify (·.modifyProperties o g)) :=
    fun g => .modify fun _ _ h => h.modifyObject o _
  unfold HolderMember.install
  cases m.body with
  | method arity g => exact (Blind.newFunction _).bind fun f => defines _
  | getter g => exact (Blind.newFunction _).bind fun f => defines _
  | setter g => exact (Blind.newFunction _).bind fun f => defines _
  | value x => exact defines _

theorem HolderDefinition.blind_instantiate (x : HolderDefinition) : Blind v x.instantiate :=
  (Blind.newObject none).bind fun o =>
    (Blind.forM fun m => m.blind_install x.label o).bind fun _ => .pure o

theorem Holders.blind_instantiate (x : Holders HolderDefinition) :
    Blind v (Holders.instantiate x) := by
  cases x with
  | inherited => exact .pure _
  | own hs => exact (Blind.mapM fun x => x.blind_instantiate).bind fun _ => .pure _

theorem ConstructorDefinition.blind_instantiate (x : ConstructorDefinition) :
    Blind v x.instantiate :=
  x.prototype.blind_instantiate.bind fun _ => .newFunction _

theorem NativeDefinition.blind_materialize (x : NativeDefinition) : Blind v x.materialize := by
  have natives : ∀ parts : Holders ObjectRef → Holders ObjectRef → NativeParts, Blind v (do
      let statics ← x.staticNatives.instantiate
      let instances ← x.instanceNatives.instantiate
      return parts statics instances) := fun parts =>
    x.staticNatives.blind_instantiate.bind fun a =>
      x.instanceNatives.blind_instantiate.bind fun b => .pure (parts a b)
  unfold NativeDefinition.materialize
  refine x.statics.blind_instantiate.bind fun classObject => ?_
  cases x.constructor with
  | none => exact (Blind.pure none).bind fun f => natives _
  | some c => exact (c.blind_instantiate.map some).bind fun f => natives _

theorem blind_allocate (k : Class) : Blind v (allocate k) :=
  (Blind.newClass k).bind fun c => (Blind.modify fun _ _ h => h.modifyObject k.object _).bind
    fun _ => .pure c

theorem blindRun_allocateFor (descriptor : ClassDescriptor) :
    BlindRun v (allocateFor descriptor) := by
  unfold allocateFor
  cases descriptor.nativeId with
  | none => exact .lift ((Blind.newObject none).bind fun _ => blind_allocate _)
  | some id =>
    refine .get_bind fun s t h => ?_
    rw [h.natives]
    cases s.natives.lookup id with
    | none => exact BlindRun.throw _ h
    | some x =>
      exact (BlindRun.lift x.blind_materialize).bind (fun _ => .lift (blind_allocate _)) h

/-! ### Preparing -/

theorem blind_synthesize (d : DomainRef) (m : Method) (scope : Scope) (checksInit : Bool) :
    Blind v (synthesize d m scope checksInit) := by
  refine .get_bind fun s t h => ?_
  rw [h.domain_congr Domain.synthesizer fun _ _ _ => rfl]
  exact Blind.newFunction _ h

theorem blind_prepareClass (d : DomainRef) (descriptor : ClassDescriptor) (base : Option ClassRef)
    (scope : Scope) (c : ClassRef) : Blind v (prepareClass d descriptor base scope c) := by
  have holders : Blind v (modify fun s => s.modifyClass c (·.withHolders s)) := by
    refine .modify fun s t h => ?_
    have same : ∀ k, Class.withHolders k t = Class.withHolders k s := fun k => by
      rw [Class.withHolders, Class.withHolders, instanceHoldersOf, instanceHoldersOf, h.template]
    simp only [same]
    exact h.modifyClass c fun _ _ => rfl
  refine .get_bind fun s t h => ?_
  rw [h.className]
  exact (Blind.log _).bind (fun _ => (Blind.modify fun _ _ h => h.modifyClass c fun _ _ => rfl).bind
    fun _ => (blind_synthesize ..).bind fun f => holders.bind fun _ => .pure f) h

/-! ### Creating -/

section
variable {s t : Store} (h : Alike v s t) (c : ClassRef)
include h

theorem Alike.name : (t.classAt c).name = (s.classAt c).name :=
  h.classAt_congr Class.name (fun _ _ => rfl) c

theorem Alike.wiring : (t.classAt c).wiring = (s.classAt c).wiring :=
  h.classAt_congr Class.wiring (fun _ _ => rfl) c

theorem Alike.constructor : (t.classAt c).constructor = (s.classAt c).constructor :=
  h.classAt_congr Class.constructor (fun _ _ => rfl) c

theorem Alike.fixedTemplate? :
    fixedTemplate? t (t.classAt c) = fixedTemplate? s (s.classAt c) := by
  unfold ClassLink.fixedTemplate?
  rw [h.constructor, h.name, h.function]

theorem Alike.delegateParent? (base : Option ClassRef) :
    delegateParent? t (t.classAt c) base = delegateParent? s (s.classAt c) base := by
  unfold ClassLink.delegateParent?
  cases base with
  | none => rfl
  | some b =>
    dsimp only
    rw [h.classAt_congr Class.delegate? (fun _ _ => rfl) b, h.className, h.name]

end

theorem blind_buildTemplates (k : Class) (base : Option ClassRef) (parent : Option ObjectRef) :
    Blind v (buildTemplates k base parent) := by
  refine (Blind.newObject parent).bind fun delegate => .get_bind fun s t h => ?_
  rw [h.template]
  cases k.constructor.bind s.template with
  | some template =>
    exact (Blind.modify fun _ _ h => h.modifyObject template _).bind (fun _ => .pure _) h
  | none => exact (Blind.newObject _).bind (fun _ => .pure _) h

theorem blindRun_configure (c : ClassRef) (base : Option ClassRef) :
    BlindRun v (configure c base) := by
  intro s t h
  have built : ∀ parent, buildTemplates (t.classAt c) base parent =
      buildTemplates (s.classAt c) base parent := fun parent => by
    unfold buildTemplates
    rw [h.constructor]
  rw [exec_configure, exec_configure, h.wiring, h.name, h.fixedTemplate?, h.delegateParent?]
  split
  · exact ⟨rfl, h⟩
  rcases fixedTemplate? s (s.classAt c) with e | (_ | template)
  · exact ⟨rfl, h⟩
  · rcases delegateParent? s (s.classAt c) base with e | parent
    · exact ⟨rfl, h⟩
    · have step := blind_buildTemplates (s.classAt c) base parent h
      simp only [built, step.value]
      exact ⟨rfl, step.alike.modifyClass c fun _ _ => rfl⟩
  · exact ⟨rfl, h.modifyClass c fun _ _ => rfl⟩

theorem blind_setConstructor (d : DomainRef) (c : ClassRef) (f : FunctionRef) :
    Blind v (setConstructor d c f) := by
  refine .get_bind fun s t h => ?_
  dsimp only
  rw [h.constructor, h.name]
  cases (s.classAt c).constructor with
  | none =>
    exact (Blind.modify fun _ _ h => h.modifyClass c fun _ _ => rfl).bind (fun _ => .pure true) h
  | some g => exact (Blind.emit d _).bind (fun _ => .pure false) h

theorem blindRun_setTemplate (f : FunctionRef) (o : ObjectRef) : BlindRun v (setTemplate f o) := by
  intro s t h
  rw [exec_setTemplate, exec_setTemplate, h.function, h.template]
  split
  · exact ⟨rfl, h.modifyFunction f _⟩
  split
  · exact ⟨rfl, h⟩
  · exact ⟨rfl, h⟩

theorem blindRun_create (d : DomainRef) (c : ClassRef) (base : Option ClassRef)
    (offered : FunctionRef) : BlindRun v (create d c base offered) := by
  refine .get_bind fun s t h => ?_
  dsimp only
  rw [h.classAt_congr Class.constructorNoInit (fun _ _ => rfl) c, h.wiring, h.name]
  split
  · exact BlindRun.throw _ h
  split
  · exact BlindRun.throw _ h
  refine (blindRun_configure c base).bind (fun _ => (BlindRun.lift (blind_setConstructor ..)).bind
    fun _ => .get_bind fun s t h => ?_) h
  rw [h.constructor, h.wiring, h.name]
  cases (s.classAt c).constructor with
  | none => exact BlindRun.throw _ h
  | some f =>
    cases (s.classAt c).wiring with
    | none => exact BlindRun.throw _ h
    | some w =>
      exact ((BlindRun.modify fun _ _ h => h.modifyClass c fun _ _ => rfl).bind fun _ =>
        (BlindRun.modify fun _ _ h => h.modifyFunction f _).bind fun _ =>
        (blindRun_setTemplate f w.template).bind fun _ =>
        (BlindRun.modify fun _ _ h => h.modifyObject w.template _).bind fun _ =>
        .modify fun _ _ h => h.modifyObject w.delegate _) h

/-! ### Binding members -/

theorem blind_resolveBinding (m : Trait) (holders : List ObjectRef) :
    Blind v (resolveBinding m holders) := by
  refine .get_bind fun s t h => ?_
  have same : m.resolve? t holders = m.resolve? s holders :=
    m.resolve?_congr fun o _ => congrFun h.properties o
  rw [same]
  cases m.resolve? s holders with
  | none => exact (Blind.log _).bind (fun _ => .pure none) h
  | some f => exact Blind.pure (some f) h

theorem Alike.slotInitial {s t : Store} (h : Alike v s t) (d : DomainRef) (slot : Slot) :
    slotInitial t d slot = slotInitial s d slot := by
  unfold ClassLink.slotInitial
  rw [h.domain_congr Domain.directory fun _ _ _ => rfl]
  have defaults : ∀ c, (t.classAt c).defaultValue = (s.classAt c).defaultValue :=
    h.classAt_congr Class.defaultValue fun _ _ => rfl
  simp only [defaults]

namespace BindingContext

variable (x : BindingContext)

theorem blind_bindFunction (m : Trait) (method : Method) :
    Blind v (x.bindFunction (synthesize x.domain) m method) := by
  unfold bindFunction
  split
  · refine (blind_resolveBinding m x.holders).bind fun found => ?_
    cases found with
    | some f => exact .pure f
    | none =>
      have counts : Blind v (modify (·.modifyDomain x.domain Domain.countStub)) :=
        .modify fun _ _ h => h.modifyDomain x.domain (fun _ _ _ => rfl) fun _ _ same => same
      exact (Blind.log _).bind fun _ => counts.bind fun _ => .newFunction _
  · exact blind_synthesize ..

theorem blind_bind (used : UInt32) (m : Trait) : Blind v (x.bind (synthesize x.domain) used m) := by
  unfold bind
  cases m.declaration with
  | method f => exact (x.blind_bindFunction m f).bind fun _ => .pure _
  | getter f => exact (x.blind_bindFunction m f).bind fun _ => .pure _
  | setter f => exact (x.blind_bindFunction m f).bind fun _ => .pure _
  | slot slot =>
    refine .get_bind fun s t h => ?_
    rw [h.slotInitial]
    exact Blind.pure _ h

theorem blind_build (traits : List Trait) : Blind v (x.build traits) := by
  refine (Blind.foldlM (fun table m => ?_) _).bind fun _ => .pure _
  exact (x.blind_bind _ m).bind fun _ => .pure _

end BindingContext

theorem Bindings.blind_applyTo (b : Bindings) (d : DomainRef) (o : ObjectRef) (mode : ApplyMode) :
    Blind v (b.applyTo d o mode) := by
  refine .modify fun s t h => ?_
  dsimp only
  rw [h.properties]
  exact (h.modifyObject o _).modifyDomain d (fun _ _ _ => rfl) fun _ _ same => same

theorem BindingContext.blind_install (x : BindingContext) (traits : List Trait)
    (target : Option ObjectRef) (c : ClassRef) {keep : Bindings → Class → Class}
    (blind : ∀ b k r, keep b { k with verification := r } =
      { keep b k with verification := (keep b { k with verification := r }).verification }) :
    Blind v (x.install traits target c keep) := by
  refine (x.blind_build traits).bind fun b => ?_
  have kept : Blind v (modify (·.modifyClass c (keep b))) :=
    .modify fun _ _ h => h.modifyClass c (blind b)
  cases target with
  | none => exact kept.bind fun _ => .pure b
  | some o => exact (b.blind_applyTo x.domain o .replace).bind fun _ => kept.bind fun _ => .pure b

theorem blind_bindStatics (d : DomainRef) (c : ClassRef) (inner : Scope) :
    Blind v (bindStatics d c inner) := by
  intro s t h
  have context : staticContext d c inner t = staticContext d c inner s :=
    h.classAt_congr (fun k => BindingContext.mk d .static k.name inner k.staticHolders none)
      (fun _ _ => rfl) c
  rw [bindStatics_run, bindStatics_run, installStatics, installStatics, context,
    h.classAt_congr (fun k => k.descriptor.staticTraits) (fun _ _ => rfl) c,
    h.classAt_congr Class.object (fun _ _ => rfl) c]
  exact ⟨rfl, ((staticContext d c inner s).blind_install _ _ c (fun _ _ _ => rfl) h).alike⟩

theorem blind_bindInstances (d : DomainRef) (c : ClassRef) (base : Option ClassRef)
    (inner : Scope) : Blind v (bindInstances d c base inner) := by
  intro s t h
  have parents : ∀ b, (t.classAt b).instanceBindings = (s.classAt b).instanceBindings :=
    h.classAt_congr Class.instanceBindings fun _ _ => rfl
  have context : instanceContext d c base inner t = instanceContext d c base inner s := by
    unfold instanceContext
    simp only [parents]
    exact h.classAt_congr (fun k => BindingContext.mk d .instance k.name inner k.instanceHolders _)
      (fun _ _ => rfl) c
  rw [bindInstances_run, bindInstances_run, installInstances, installInstances, context,
    h.classAt_congr (fun k => k.descriptor.instanceTraits) (fun _ _ => rfl) c,
    h.classAt_congr Class.template? (fun _ _ => rfl) c]
  exact (instanceContext d c base inner s).blind_install _ _ c (fun _ _ _ => rfl) h

theorem Alike.sharing? {s t : Store} (h : Alike v s t) (d : DomainRef) (c : ClassRef)
    (b : Bindings) : t.sharing? d c b = s.sharing? d c b := by
  have objects : ∀ k, (t.classAt k).object = (s.classAt k).object :=
    h.classAt_congr Class.object fun _ _ => rfl
  have instances : ∀ k, (t.classAt k).instanceBindings = (s.classAt k).instanceBindings :=
    h.classAt_congr Class.instanceBindings fun _ _ => rfl
  unfold Store.sharing?
  rw [h.classAt_congr Class.kind (fun _ _ => rfl) c,
    h.domain_congr Domain.rootClass fun _ _ _ => rfl,
    h.domain_congr Domain.classOfClasses fun _ _ _ => rfl]
  simp only [objects, instances]

theorem blind_shareClassMembers (d : DomainRef) (c : ClassRef) (b : Bindings) :
    Blind v (shareClassMembers d c b) := by
  intro s t h
  rw [shareClassMembers_run, shareClassMembers_run, h.sharing?]
  cases s.sharing? d c b with
  | none => exact ⟨rfl, h⟩
  | some r => exact r.1.blind_applyTo d r.2 .append h

theorem blind_bindMembers (d : DomainRef) (c : ClassRef) (base : Option ClassRef)
    (inner : Scope) : Blind v (bindMembers d c base inner) :=
  (blind_bindStatics d c inner).bind fun _ => (blind_bindInstances d c base inner).bind fun b =>
    blind_shareClassMembers d c b

/-! ### Entering the directory -/

theorem blind_registerClass (d : DomainRef) (c : ClassRef) : Blind v (registerClass d c) := by
  refine .modify fun s t h => ?_
  dsimp only
  rw [h.classAt_congr Class.kind (fun _ _ => rfl) c, h.classAt_congr Class.key (fun _ _ => rfl) c]
  exact h.modifyDomain d (fun _ _ _ => rfl) fun _ _ same => same

theorem Alike.trace {s t : Store} (h : Alike v s t) (c : ClassRef) : t.trace c = s.trace c := by
  unfold Store.trace
  rw [h.classAt c, h.className, h.function, h.parent, h.template]
  rfl

/-- Logs that are to agree ask for classes to be logged in both stores or in none. -/
theorem blind_announceClass {d : DomainRef} (c : ClassRef)
    (traced : ¬v.log → ∀ o o', v.options d o o' → o'.trace = o.trace) :
    Blind v (announceClass d c) := by
  refine (blind_registerClass d c).bind fun _ => .get_bind fun s t h => ?_
  rw [h.trace]
  by_cases log : v.log
  · have logged : ∀ r, Alike v (s.record r) t ∧ Alike v s (t.record r) := fun r =>
      ⟨{ h with log := fun kept => absurd log kept }, { h with log := fun kept => absurd log kept }⟩
    split <;> split
    · exact Blind.log _ h
    · exact ⟨rfl, (logged _).1⟩
    · exact ⟨rfl, (logged _).2⟩
    · exact Blind.pure _ h
  · rw [traced log _ _ (h.options d)]
    split
    · exact Blind.log _ h
    · exact Blind.pure _ h

end ClassLink
