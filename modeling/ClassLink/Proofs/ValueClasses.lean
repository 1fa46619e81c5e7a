import ClassLink.Proofs.FixedTemplates

/-!
# Calling and constructing the classes of values

The classes of truths and of numbers make values in two ways, which are written down separately.
Called as a function, such a class coerces its first argument, and undefined if there is none.
Constructed, it makes an object and runs the construct hook of its constructor on it, a host
function that reads the arguments for itself and gives a value in place of the object. Both always
succeed, and they give the same value (`calling_agrees_with_constructing`) with one exception: the
hook of the class of doubles takes a missing argument for zero, while undefined as a number is NaN.

For how a class makes values nothing else matters than its call style, its coercion and its
constructor with the hook and a template, whichever template this is. A class has these from its
definition when it is allocated (`usedAs_of_allocateFor`), and neither linking nor code that runs
ever takes them away (`Store.KeepsUses`): the template of a constructor may be replaced, but not
removed.
-/

namespace ClassLink

open Relation (ReflTransGen)

/-! ### Keeping how classes are used -/

/-- A function constructs by the same hook, and has a template if it had one. -/
structure Function.KeepsConstructing (g h : Function) : Prop where
  hook : h.constructHook = g.constructHook
  template : g.template.isSome = true → h.template.isSome = true

theorem Function.KeepsConstructing.refl (g : Function) : g.KeepsConstructing g := ⟨rfl, id⟩

/-- A class coerces as before when it is called, and keeps a constructor that it has. -/
structure Class.KeepsMaking (k l : Class) : Prop where
  callStyle : l.callStyle = k.callStyle
  coercion : l.coercion = k.coercion
  constructor : ∀ f, k.constructor = some f → l.constructor = some f

theorem Class.KeepsMaking.refl (k : Class) : k.KeepsMaking k := ⟨rfl, rfl, fun _ => id⟩

/-- Functions and classes are used as before. -/
structure Store.KeepsUses (s t : Store) : Prop where
  functions_le : s.functions.size ≤ t.functions.size
  classes_le : s.classes.size ≤ t.classes.size
  function : ∀ f : FunctionRef, f.index < s.functions.size →
    (s.function f).KeepsConstructing (t.function f)
  classAt : ∀ c : ClassRef, c.index < s.classes.size → (s.classAt c).KeepsMaking (t.classAt c)

section
variable {s t u : Store}

namespace Store.KeepsUses

theorem trans (h : s.KeepsUses t) (k : t.KeepsUses u) : s.KeepsUses u where
  functions_le := h.functions_le.trans k.functions_le
  classes_le := h.classes_le.trans k.classes_le
  function f hf := by
    have first := h.function f hf
    have second := k.function f (hf.trans_le h.functions_le)
    exact ⟨second.hook.trans first.hook, fun has => second.template (first.template has)⟩
  classAt c hc := by
    have first := h.classAt c hc
    have second := k.classAt c (hc.trans_le h.classes_le)
    exact ⟨second.callStyle.trans first.callStyle, second.coercion.trans first.coercion,
      fun f hf => second.constructor f (first.constructor f hf)⟩

/-- Functions and classes are made, and none of them is written. -/
theorem of_kept (functions_le : s.functions.size ≤ t.functions.size)
    (classes_le : s.classes.size ≤ t.classes.size)
    (function : ∀ f : FunctionRef, f.index < s.functions.size → t.function f = s.function f)
    (classAt : ∀ c : ClassRef, c.index < s.classes.size → t.classAt c = s.classAt c) :
    s.KeepsUses t := by
  refine ⟨functions_le, classes_le, fun f hf => ?_, fun c hc => ?_⟩
  · rw [function f hf]
    exact .refl _
  · rw [classAt c hc]
    exact .refl _

/-- Neither functions nor classes are written. -/
theorem of_eq (functions : t.functions = s.functions) (classes : t.classes = s.classes) :
    s.KeepsUses t := by
  refine of_kept (by rw [functions]) (by rw [classes]) (fun f _ => ?_) fun c _ => ?_
  · rw [Store.function, functions]
    rfl
  · rw [Store.classAt, classes]
    rfl

theorem refl (s : Store) : s.KeepsUses s := of_eq rfl rfl

/-- A sequence keeps what its steps do. -/
theorem bind {α β : Type} {x : Run α} {f : α → Run β} (first : s.KeepsUses (exec x s).2)
    (then_ : ∀ a t, exec x s = (.ok a, t) → t.KeepsUses (exec (f a) t).2) :
    s.KeepsUses (exec (x >>= f) s).2 :=
  exec_bind_rel (r := Store.KeepsUses) trans first then_

end Store.KeepsUses

theorem Store.Keeps.uses (h : s.Keeps t) : s.KeepsUses t :=
  .of_kept h.functions_le h.classes_le h.function h.classAt

/-! ### What the operations do -/

theorem keepsUses_modifyFunction (f : FunctionRef) {g : Function → Function}
    (keeps : ∀ x : Function, x.KeepsConstructing (g x)) : s.KeepsUses (s.modifyFunction f g) := by
  refine { Store.KeepsUses.refl s with functions_le := ?_, function := fun x _ => ?_ }
  · exact (Array.size_modify ..).ge
  · rw [Store.function_modifyFunction]
    split
    · exact keeps _
    · exact .refl _

theorem keepsUses_modifyClass (c : ClassRef) {g : Class → Class}
    (keeps : (s.classAt c).KeepsMaking (g (s.classAt c))) : s.KeepsUses (s.modifyClass c g) := by
  refine { Store.KeepsUses.refl s with classes_le := ?_, classAt := fun x _ => ?_ }
  · exact (Store.size_modifyClass ..).ge
  · rw [Store.classAt_modifyClass]
    split
    · rename_i here
      rw [← here.1]
      exact keeps
    · exact .refl _

/-- A template is replaced by another one. -/
theorem keepsUses_setTemplate (f : FunctionRef) (o : ObjectRef) (s : Store) :
    s.KeepsUses (exec (setTemplate f o) s).2 := by
  rw [exec_setTemplate]
  split
  · exact keepsUses_modifyFunction f fun x => ⟨rfl, fun _ => rfl⟩
  · split <;> exact .refl s

/-- Code that runs replaces a template at most. -/
theorem Effect.keepsUses (h : Effect s t) : s.KeepsUses t := by
  cases h with
  | none => exact .refl s
  | newObject parent => exact .of_eq rfl rfl
  | store o key v => exact .of_eq rfl rfl
  | setEnumerable o key on => exact .of_eq rfl rfl
  | setTemplate f o => exact keepsUses_setTemplate f o s

/-- Constructing makes an object and runs code on it. -/
theorem keepsUses_construct (c : ClassRef) (args : List Value) (s : Store) :
    s.KeepsUses (exec (construct c args) s).2 := by
  unfold construct constructBy
  rw [exec_get_bind]
  dsimp only
  split
  · exact .refl s
  unfold instantiateBy
  rw [exec_get_bind]
  dsimp only
  split
  · exact .refl s
  rename_i template _
  have made : s.KeepsUses ((newObject (some template)).run s).2 := .of_eq rfl rfl
  rw [exec_lift_bind]
  refine made.trans ?_
  split
  · exact (effect_hostFunction effect_call ..).keepsUses
  · refine .bind (effect_call ..).keepsUses fun r u _ => ?_
    split <;> exact .refl u

/-- Calling a class runs its constructor, or nothing. -/
theorem keepsUses_callClass (c : ClassRef) (this : Value) (args : List Value) (s : Store) :
    s.KeepsUses (exec (callClass c this args) s).2 := by
  unfold callClass
  rw [exec_get_bind]
  split
  · unfold passThrough
    rw [exec_get_bind]
    dsimp only
    split
    · exact .refl s
    · split
      · exact .refl s
      · exact (effect_call ..).keepsUses
  · unfold coerceCall
    rw [exec_get_bind]
    dsimp only
    split <;> exact .refl s

/-- A class that has a constructor is not given another one. -/
theorem keepsUses_setConstructor (d : DomainRef) (c : ClassRef) (f : FunctionRef) (s : Store) :
    s.KeepsUses ((setConstructor d c f).run s).2 := by
  rw [setConstructor_run]
  cases own : (s.classAt c).constructor with
  | some g => exact .of_eq rfl rfl
  | none =>
    refine keepsUses_modifyClass c ⟨rfl, rfl, fun g has => ?_⟩
    rw [own] at has
    cases has

theorem keepsUses_configure (c : ClassRef) (base : Option ClassRef) (s : Store) :
    s.KeepsUses (exec (configure c base) s).2 := by
  have wired : ∀ (u : Store) (w : Wiring),
      u.KeepsUses (u.modifyClass c fun k => { k with wiring := some w }) := by
    intro u w
    exact keepsUses_modifyClass c ⟨rfl, rfl, fun _ => id⟩
  rw [exec_configure]
  split
  · exact .refl s
  rcases fixedTemplate? s (s.classAt c) with e | (_ | template)
  · exact .refl s
  · rcases delegateParent? s (s.classAt c) base with e | parent
    · exact .refl s
    · refine Store.KeepsUses.trans ?_ (wired _ _)
      rw [buildTemplates_run]
      cases (s.classAt c).hostTemplate? s <;> exact .of_eq rfl rfl
  · exact wired s _

theorem keepsUses_create (d : DomainRef) (c : ClassRef) (base : Option ClassRef)
    (offered : FunctionRef) (s : Store) : s.KeepsUses (exec (create d c base offered) s).2 := by
  rw [exec_create]
  split
  · exact .refl s
  split
  · exact .refl s
  refine .bind (keepsUses_configure c base s) fun _ t _ => ?_
  unfold settleClass
  rw [exec_lift_bind, exec_get_bind]
  refine (keepsUses_setConstructor d c offered t).trans ?_
  dsimp only
  split
  · exact .refl _
  · exact .refl _
  · rename_i f w _ _
    have marked : ∀ v : Store, v.KeepsUses
        ((v.modifyClass c fun k => { k with constructorNoInit := some f }).setFunctionClass f c) := by
      intro v
      have first := keepsUses_modifyClass (s := v) c
        (g := fun k => { k with constructorNoInit := some f }) ⟨rfl, rfl, fun _ => id⟩
      exact first.trans (keepsUses_modifyFunction f fun x => ⟨rfl, id⟩)
    simp only [finishClass, exec_modify_bind]
    refine (marked _).trans (.bind (keepsUses_setTemplate f w.template _) fun _ v _ => ?_)
    exact .of_eq rfl rfl

section
variable {d : DomainRef} {descriptor : ClassDescriptor} {base : Option ClassRef} {scope : Scope}

theorem keepsUses_prepareClass (c : ClassRef) (s : Store) :
    s.KeepsUses ((prepareClass d descriptor base scope c).run s).2 := by
  obtain ⟨r, g, run⟩ := prepareClass_run d descriptor base scope c s
  rw [run]
  have recorded : s.KeepsUses (s.record r) := .of_eq rfl rfl
  have entered := recorded.trans (keepsUses_modifyClass c
    (g := (·.inside (scope.push (.class c)))) ⟨rfl, rfl, fun _ => id⟩)
  have offered := confined_newFunction .none
    ((s.record r).modifyClass c (·.inside (scope.push (.class c))))
    (.bytecode descriptor.instanceInit (scope.push (.class c)) false g)
  have made : Store.KeepsUses _ _ := .of_kept offered.functions_le offered.classes_le
    (fun f hf => offered.function f hf (Set.notMem_empty f))
    fun k hk => offered.classAt k hk (Set.notMem_empty k)
  exact (entered.trans made).trans (keepsUses_modifyClass c ⟨rfl, rfl, fun _ => id⟩)

/-- Once a class is created, its link writes its tables and its report. -/
theorem LinkStages.keepsUses_created {c : ClassRef} {x : LinkTrace}
    (h : LinkStages d descriptor base scope s t c x) (lt : d.index < s.domains.size) :
    x.created.KeepsUses t := by
  have later := h.confined_later lt
  have last := h.announced.keeps
  refine ⟨later.functions_le.trans last.functions_le, later.classes_le.trans last.classes_le,
    fun f hf => ?_, fun k hk => ?_⟩
  · rw [last.function f (hf.trans_le later.functions_le), later.function f hf (Set.notMem_empty f)]
    exact .refl _
  · by_cases this : k = c
    · subst this
      rw [h.classAt lt]
      exact ⟨rfl, rfl, fun _ => id⟩
    · rw [last.classAt k (hk.trans_le later.classes_le), later.classAt k hk this]
      exact .refl _

/-- A link leaves whatever exists as it is, also if it fails. -/
theorem keepsUses_link (lt : d.index < s.domains.size) :
    s.KeepsUses (exec (link d descriptor base scope) s).2 := by
  rcases run : exec (link d descriptor base scope) s with ⟨e | c, t⟩
  · exact (keeps_of_failed_link lt run).uses
  · obtain ⟨x, stages⟩ := linkStages_of_link lt run
    exact (stages.keeps lt).uses

end

/-! ### A class and its definition -/

/-- A class is called and constructs as its definition says. -/
structure Store.UsedAs (s : Store) (c : ClassRef) (k : NativeDefinition) : Prop where
  inside : c.index < s.classes.size
  callStyle : (s.classAt c).callStyle = k.callStyle
  coercion : (s.classAt c).coercion = k.coercion
  constructor : ∃ f, (s.classAt c).constructor = some f ∧ f.index < s.functions.size ∧
    (s.function f).constructHook = k.constructor.bind (·.construct) ∧
    (s.function f).template.isSome = true

theorem Store.UsedAs.later {c : ClassRef} {k : NativeDefinition} (h : s.UsedAs c k)
    (keeps : s.KeepsUses t) : t.UsedAs c k := by
  obtain ⟨f, has, inside, hook, template⟩ := h.constructor
  have class_ := keeps.classAt c h.inside
  have function := keeps.function f inside
  exact ⟨h.inside.trans_le keeps.classes_le, class_.callStyle.trans h.callStyle,
    class_.coercion.trans h.coercion, f, class_.constructor f has,
    inside.trans_le keeps.functions_le, function.hook.trans hook, function.template template⟩

/-- The parts made for a definition have its call style and its coercion, and the constructor has
its hook and a template. -/
theorem NativeDefinition.uses_materialize (k : NativeDefinition) {x : ConstructorDefinition}
    (given : k.constructor = some x) (s : Store) :
    (k.materialize.run s).1.callStyle = k.callStyle ∧
    (k.materialize.run s).1.coercion = k.coercion ∧
    ∃ f, (k.materialize.run s).1.constructor = some f ∧
      f.index < (k.materialize.run s).2.functions.size ∧
      ((k.materialize.run s).2.function f).constructHook = x.construct ∧
      ((k.materialize.run s).2.function f).template.isSome = true := by
  generalize hs₁ : (k.statics.instantiate.run s).2 = s₁
  generalize hs₂ : (x.instantiate.run s₁).2 = s₂
  generalize hs₃ : (k.staticNatives.instantiate.run s₂).2 = s₃
  generalize hs₄ : (k.instanceNatives.instantiate.run s₃).2 = s₄
  have later : Confined .none s₂ s₄ := (hs₃ ▸ k.staticNatives.confined_instantiate s₂).trans
    (hs₄ ▸ k.instanceNatives.confined_instantiate s₃)
  have new := (x.instantiate_new s₁).lt
  have made : (x.instantiate.run s₁).2.function (x.instantiate.run s₁).1 =
      .hostConstructor x.name x.arity x.call x.construct ⟨s₁.objects.size⟩ !x.templateFixed :=
    newFunction_function ..
  rw [hs₂] at new made
  have host : ((instantiateConstructor k.constructor).run s₁).2 = s₂ := by
    rw [given]
    exact hs₂
  rw [k.materialize_run hs₁ host hs₃ hs₄, given]
  refine ⟨rfl, rfl, (x.instantiate.run s₁).1, rfl, new.trans_le later.functions_le, ?_, ?_⟩ <;>
    rw [later.function _ new (Set.notMem_empty _), made] <;> rfl

/-- A class is allocated with the call style, the coercion and the constructor of its definition. -/
theorem usedAs_of_allocateFor {descriptor : ClassDescriptor} {k : NativeDefinition} {c : ClassRef}
    (named : descriptor.nativeId = some k.id) (known : s.natives.lookup k.id = some k)
    (hosted : k.constructor.isSome = true) (run : exec (allocateFor descriptor) s = (.ok c, t)) :
    t.UsedAs c k := by
  have lt := (allocated_of_allocateFor run).lt
  obtain ⟨x, given⟩ := Option.isSome_iff_exists.mp hosted
  obtain ⟨style, coercion, f, has, inside, hook, template⟩ := k.uses_materialize given s
  rw [allocateFor, named] at run
  simp only [exec_get_bind, known] at run
  obtain ⟨made, rfl⟩ := Prod.mk.inj run
  obtain rfl := Except.ok.inj made
  have class_ := classAt_allocate (s := (k.materialize.run s).2)
  refine ⟨lt, ?_, ?_, f, ?_, inside, hook.trans (given ▸ rfl), template⟩
  · exact (congrArg Class.callStyle (class_ _)).trans style
  · exact (congrArg Class.coercion (class_ _)).trans coercion
  · exact (congrArg Class.constructor (class_ _)).trans has

/-- A linked class is used as its definition says. -/
theorem usedAs_of_link {d : DomainRef} {descriptor : ClassDescriptor} {base : Option ClassRef}
    {scope : Scope} {k : NativeDefinition} {c : ClassRef} (lt : d.index < s.domains.size)
    (named : descriptor.nativeId = some k.id) (known : s.natives.lookup k.id = some k)
    (hosted : k.constructor.isSome = true)
    (run : exec (link d descriptor base scope) s = (.ok c, t)) : t.UsedAs c k := by
  obtain ⟨x, stages⟩ := linkStages_of_link lt run
  obtain ⟨v, allocated, prepared⟩ := stages.begun
  have prepares : v.KeepsUses ((prepareClass d descriptor base scope c).run v).2 :=
    keepsUses_prepareClass c v
  have creates := keepsUses_create d c base x.offered x.prepared
  rw [prepared] at prepares
  rw [stages.creating] at creates
  exact (((usedAs_of_allocateFor named known hosted allocated).later prepares).later creates).later
    (stages.keepsUses_created lt)

/-! ### Steps -/

/-- Something is done that may write functions or classes. -/
inductive UseStep (s : Store) : Store → Prop
  /-- A function is called. -/
  | call (f : FunctionRef) (this : Value) (args : List Value) :
      UseStep s (exec (call f this args) s).2
  /-- A class is called. -/
  | callClass (c : ClassRef) (this : Value) (args : List Value) :
      UseStep s (exec (callClass c this args) s).2
  /-- A class constructs an instance. -/
  | construct (c : ClassRef) (args : List Value) : UseStep s (exec (construct c args) s).2
  /-- A property is read, which may call a getter. -/
  | getProperty (o : ObjectRef) (key : String) : UseStep s (exec (getProperty o key) s).2
  /-- A property is written, which may call a setter. -/
  | setProperty (o : ObjectRef) (key : String) (v : Value) :
      UseStep s (exec (setProperty o key v) s).2
  /-- The template of a function is replaced, or is to be. -/
  | setTemplate (f : FunctionRef) (o : ObjectRef) : UseStep s (exec (setTemplate f o) s).2
  /-- A class is offered a constructor. -/
  | setConstructor (d : DomainRef) (c : ClassRef) (f : FunctionRef) :
      UseStep s ((setConstructor d c f).run s).2
  /-- A class is configured, or is to be. -/
  | configure (c : ClassRef) (base : Option ClassRef) : UseStep s (exec (configure c base) s).2
  /-- A class is created, or is to be. -/
  | create (d : DomainRef) (c : ClassRef) (base : Option ClassRef) (offered : FunctionRef) :
      UseStep s (exec (create d c base offered) s).2
  /-- A class is linked, or is to be. -/
  | link {d : DomainRef} : d.index < s.domains.size → (descriptor : ClassDescriptor) →
      (base : Option ClassRef) → (scope : Scope) →
      UseStep s (exec (link d descriptor base scope) s).2
  /-- Something else is done; functions and classes may be made, but are not written. -/
  | other {t : Store} : s.functions.size ≤ t.functions.size → s.classes.size ≤ t.classes.size →
      (∀ f : FunctionRef, f.index < s.functions.size → t.function f = s.function f) →
      (∀ c : ClassRef, c.index < s.classes.size → t.classAt c = s.classAt c) → UseStep s t

/-- **A step.** -/
theorem UseStep.keepsUses (h : UseStep s t) : s.KeepsUses t := by
  cases h with
  | call f this args => exact (effect_call f this args s).keepsUses
  | callClass c this args => exact keepsUses_callClass c this args s
  | construct c args => exact keepsUses_construct c args s
  | getProperty o key => exact (effect_readProperty effect_call o key s).keepsUses
  | setProperty o key v => exact (effect_writeProperty effect_call o key v s).keepsUses
  | setTemplate f o => exact keepsUses_setTemplate f o s
  | setConstructor d c f => exact keepsUses_setConstructor d c f s
  | configure c base => exact keepsUses_configure c base s
  | create d c base offered => exact keepsUses_create d c base offered s
  | link lt => exact keepsUses_link lt
  | other functions_le classes_le function classAt =>
    exact .of_kept functions_le classes_le function classAt

/-- **Steps.** -/
theorem keepsUses_of_steps (h : ReflTransGen UseStep s t) : s.KeepsUses t := by
  induction h with
  | refl => exact .refl s
  | tail _ step ih => exact ih.trans step.keepsUses

/-! ### The two ways to make a value -/

section
variable {c : ClassRef} {k : NativeDefinition}

/-- Calling a class that coerces applies its coercion to the first argument. -/
theorem Store.UsedAs.exec_callClass (h : s.UsedAs c k) (coerces : k.callStyle = .coerce)
    (plain : k.coercion ≠ .instance) (this : Value) (args : List Value) :
    exec (callClass c this args) s = (k.coercion.apply (nthArgument args 0), s) := by
  have style : (s.classAt c).callStyle = .coerce := h.callStyle.trans coerces
  have coerced : ∀ v, s.coerce c v = k.coercion.apply v := by
    intro v
    unfold Store.coerce
    dsimp only
    rw [h.coercion]
    split
    · rename_i own
      exact absurd own plain
    · rfl
  unfold callClass
  rw [exec_get_bind, style]
  dsimp only
  unfold coerceCall
  rw [exec_get_bind]
  dsimp only
  rw [if_neg (not_not_intro style), ← coerced]
  rfl

/-- Constructing with a hook runs it on a new object. -/
theorem Store.UsedAs.exec_construct {b : Builtin} (h : s.UsedAs c k)
    (hook : k.constructor.bind (·.construct) = some (.builtin b)) (args : List Value) :
    ∃ o t, exec (construct c args) s = exec (b.run (.object o) args) t := by
  obtain ⟨f, has, -, own, template⟩ := h.constructor
  obtain ⟨o, template⟩ := Option.isSome_iff_exists.mp template
  refine ⟨⟨s.objects.size⟩, ((newObject (some o)).run s).2, ?_⟩
  unfold construct constructBy
  rw [exec_get_bind]
  simp only [has]
  unfold instantiateBy
  rw [exec_get_bind]
  simp only [template, own.trans hook]
  rfl

end

/-- The classes of truths and of numbers. -/
def Builtins.valueClasses : List NativeDefinition :=
  [booleanClass, intClass, uintClass, numberClass]

/-- They coerce when they are called, but not to instances, and they have a constructor. -/
theorem Builtins.valueClasses_coerce : ∀ k ∈ valueClasses,
    k.callStyle = .coerce ∧ k.coercion ≠ .instance ∧ k.constructor.isSome = true := by
  decide

/-- The construct hook of a class of values gives what its coercion makes of the first argument, or
zero in place of NaN. -/
theorem Builtins.hook_agrees_with_coercion {k : NativeDefinition} (value : k ∈ valueClasses)
    (args : List Value) : ∃ b v w, k.constructor.bind (·.construct) = some (.builtin b) ∧
      k.coercion.apply (nthArgument args 0) = .ok v ∧
      (∀ this t, exec (b.run this args) t = (.ok w, t)) ∧
      (k = numberClass ∧ args = [] → v = .number .nan ∧ w = .number .zero) ∧
      (¬ (k = numberClass ∧ args = []) → v = w) := by
  have apart : ∀ {l : NativeDefinition}, l.id ≠ numberClass.id → l ≠ numberClass := by
    rintro l ne rfl
    exact ne rfl
  simp only [valueClasses, List.mem_cons, List.not_mem_nil, or_false] at value
  rcases value with rfl | rfl | rfl | rfl
  · exact ⟨.toBoolean, _, _, rfl, rfl, fun _ _ => rfl,
      fun h => absurd h.1 (apart (by decide)), fun _ => rfl⟩
  · exact ⟨.toInt32, _, _, rfl, rfl, fun _ _ => rfl,
      fun h => absurd h.1 (apart (by decide)), fun _ => rfl⟩
  · exact ⟨.toUInt32, _, _, rfl, rfl, fun _ _ => rfl,
      fun h => absurd h.1 (apart (by decide)), fun _ => rfl⟩
  · refine ⟨.toNumber, _, _, rfl, rfl, fun _ _ => rfl, ?_, fun given => ?_⟩
    · rintro ⟨-, rfl⟩
      exact ⟨rfl, rfl⟩
    · cases args with
      | nil => exact absurd ⟨rfl, rfl⟩ given
      | cons v args => rfl

/-- **Calling and constructing agree.** Let a class be linked over one of the builtin classes of
values. In every later store, whatever the receiver and however many arguments there are, calling
the class and constructing with it both succeed and give the same value. Only the class of doubles
without arguments gives NaN when it is called and zero when it constructs. -/
theorem calling_agrees_with_constructing {k : NativeDefinition} (value : k ∈ Builtins.valueClasses)
    {d : DomainRef} {descriptor : ClassDescriptor} {base : Option ClassRef} {scope : Scope}
    {c : ClassRef} (lt : d.index < s.domains.size) (named : descriptor.nativeId = some k.id)
    (known : s.natives.lookup k.id = some k)
    (linked : exec (link d descriptor base scope) s = (.ok c, t)) (run : ReflTransGen UseStep t u)
    (this : Value) (args : List Value) :
    ∃ v w, (exec (callClass c this args) u).1 = .ok v ∧ (exec (construct c args) u).1 = .ok w ∧
      (k = Builtins.numberClass ∧ args = [] → v = .number .nan ∧ w = .number .zero) ∧
      (¬ (k = Builtins.numberClass ∧ args = []) → v = w) := by
  obtain ⟨b, v, w, hook, coerced, made, agree⟩ := Builtins.hook_agrees_with_coercion value args
  obtain ⟨style, plain, hosted⟩ := Builtins.valueClasses_coerce k value
  have used := (usedAs_of_link lt named known hosted linked).later (keepsUses_of_steps run)
  obtain ⟨o, x, constructed⟩ := used.exec_construct hook args
  refine ⟨v, w, ?_, ?_, agree⟩
  · rw [used.exec_callClass style plain this args]
    exact coerced
  · rw [constructed, made]

end

/-! ### A class of doubles -/

namespace Sample

/-- Linking the class of doubles. -/
def linkNumber : Run ClassRef :=
  link ⟨0⟩ { ClassDescriptor.bare "Number" with nativeId := some "NumberClass" } none
    (.global ⟨0⟩)

/-- A store with one domain and the builtin classes. -/
def builtin : Store := ((newDomain .standard .inert).run Store.initial).2

/-- The store with that class. -/
def numeric : Store := (exec linkNumber builtin).2

end Sample

/-- A text with a number is the same number in both ways, also after the class has been called. -/
theorem calling_agrees_with_constructing_text : ∃ v w,
    (exec (callClass ⟨0⟩ .null [.string "12"])
      (exec (callClass ⟨0⟩ .null []) Sample.numeric).2).1 = .ok v ∧
    (exec (construct ⟨0⟩ [.string "12"])
      (exec (callClass ⟨0⟩ .null []) Sample.numeric).2).1 = .ok w ∧ v = w := by
  have linked : exec Sample.linkNumber Sample.builtin = (.ok ⟨0⟩, Sample.numeric) :=
    exec_eq_of_toOption (by decide +kernel)
  have known : Sample.builtin.natives.lookup "NumberClass" = some Builtins.numberClass := by
    decide +kernel
  obtain ⟨v, w, called, constructed, -, same⟩ :=
    calling_agrees_with_constructing (k := Builtins.numberClass) (by simp [Builtins.valueClasses])
      (by decide +kernel) rfl known linked (.single (.callClass ⟨0⟩ .null [])) .null [.string "12"]
  exact ⟨v, w, called, constructed, same (by simp)⟩

/-- Without arguments the two ways differ. -/
theorem calling_differs_without_arguments :
    exec Sample.linkNumber Sample.builtin = (.ok ⟨0⟩, Sample.numeric) ∧
    ¬ ∃ v, (exec (callClass ⟨0⟩ .undefined []) Sample.numeric).1 = .ok v ∧
      (exec (construct ⟨0⟩ []) Sample.numeric).1 = .ok v := by
  have called : (exec (callClass ⟨0⟩ .undefined []) Sample.numeric).1.toOption =
      some (.number .nan) := by decide +kernel
  have constructed : (exec (construct ⟨0⟩ []) Sample.numeric).1.toOption =
      some (.number .zero) := by decide +kernel
  refine ⟨exec_eq_of_toOption (by decide +kernel), ?_⟩
  rintro ⟨v, hv, hw⟩
  rw [hv] at called
  rw [hw] at constructed
  obtain rfl : v = .number .nan := Option.some.inj called
  cases Option.some.inj constructed

end ClassLink
