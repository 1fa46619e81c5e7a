import ClassLink.Proofs.Calls
import ClassLink.Proofs.Hierarchy
import ClassLink.Proofs.Installing
import Mathlib.Logic.Relation

/-!
# Fixed templates

The template of a host constructor may be fixed. Whoever tries to replace it is refused, which are
embedders, scripts by way of a setter, and the creation of classes. A class that is configured over
such a constructor takes its template over, for template and delegate alike, so creating the class
hands the constructor the one template that it accepts.

What is fixed is therefore fixed for good (`Store.Secures`): the template of such a constructor, the
wiring of a class and its constructor. A class that has taken a template over keeps it, and so does
its constructor (`template_fixed`), whatever is done to other classes and functions in between.
-/

namespace ClassLink

/-! ### Leaving templates alone -/

/-- Templates are left alone, and so are the wirings and the constructors of classes; new classes
are not wired. -/
structure Store.LeavesTemplates (s t : Store) : Prop where
  functions_le : s.functions.size ≤ t.functions.size
  classes_le : s.classes.size ≤ t.classes.size
  domains_le : s.domains.size ≤ t.domains.size
  template : ∀ f : FunctionRef, f.index < s.functions.size → t.template f = s.template f
  writable : ∀ f : FunctionRef, f.index < s.functions.size →
    (t.function f).templateWritable = (s.function f).templateWritable
  wiring : ∀ c, (t.classAt c).wiring = (s.classAt c).wiring
  constructor : ∀ c : ClassRef, c.index < s.classes.size →
    (t.classAt c).constructor = (s.classAt c).constructor

section
variable {s t u : Store}

namespace Store.LeavesTemplates

theorem trans (h : s.LeavesTemplates t) (k : t.LeavesTemplates u) : s.LeavesTemplates u where
  functions_le := h.functions_le.trans k.functions_le
  classes_le := h.classes_le.trans k.classes_le
  domains_le := h.domains_le.trans k.domains_le
  template f hf := (k.template f (hf.trans_le h.functions_le)).trans (h.template f hf)
  writable f hf := (k.writable f (hf.trans_le h.functions_le)).trans (h.writable f hf)
  wiring c := (k.wiring c).trans (h.wiring c)
  constructor c hc := (k.constructor c (hc.trans_le h.classes_le)).trans (h.constructor c hc)

/-- Neither functions nor classes are written. -/
theorem of_eq (functions : t.functions = s.functions) (classes : t.classes = s.classes)
    (domains_le : s.domains.size ≤ t.domains.size) : s.LeavesTemplates t := by
  have function : ∀ f, t.function f = s.function f := fun f => by rw [function, functions]; rfl
  have classAt : ∀ c, t.classAt c = s.classAt c := fun c => by rw [classAt, classes]; rfl
  refine ⟨functions ▸ le_rfl, classes ▸ le_rfl, domains_le, ?_, ?_, ?_, ?_⟩
  · exact fun f _ => congrArg Function.template (function f)
  · exact fun f _ => congrArg Function.templateWritable (function f)
  · exact fun c => congrArg Class.wiring (classAt c)
  · exact fun c _ => congrArg Class.constructor (classAt c)

theorem refl (s : Store) : s.LeavesTemplates s := of_eq rfl rfl le_rfl

end Store.LeavesTemplates

/-- Functions are made, and classes are not written. -/
theorem Confined.leavesTemplates {p : Footprint} (h : Confined p s t)
    (functions : ∀ f, f ∉ p.functions) (classes : t.classes = s.classes) :
    s.LeavesTemplates t := by
  have classAt : ∀ c, t.classAt c = s.classAt c := fun c => by
    rw [Store.classAt, classes]
    rfl
  refine ⟨h.functions_le, h.classes_le, h.domains_eq.ge, ?_, ?_, ?_, ?_⟩
  · exact fun f inside => congrArg Function.template (h.function f inside (functions f))
  · exact fun f inside => congrArg Function.templateWritable (h.function f inside (functions f))
  · exact fun c => congrArg Class.wiring (classAt c)
  · exact fun c _ => congrArg Class.constructor (classAt c)

section
variable (s) (c : ClassRef)

theorem leavesTemplates_newFunction (f : Function) :
    s.LeavesTemplates ((newFunction f).run s).2 :=
  (confined_newFunction .none s f).leavesTemplates (fun f => Set.notMem_empty f) rfl

theorem leavesTemplates_emit (d : DomainRef) (x : Diagnostic) :
    s.LeavesTemplates ((emit d x).run s).2 :=
  .of_eq rfl rfl (Store.size_modifyDomain ..).ge

theorem leavesTemplates_setFunctionClass (f : FunctionRef) :
    s.LeavesTemplates (s.setFunctionClass f c) := by
  refine { Store.LeavesTemplates.refl s with functions_le := ?_, template := ?_, writable := ?_ }
  · exact (Array.size_modify ..).ge
  all_goals
    intro g _
    simp only [Store.template, Store.setFunctionClass, Store.function_modifyFunction]
    split <;> rfl

/-- A class is written, in parts that are not its wiring or its constructor. -/
theorem leavesTemplates_modifyClass {g : Class → Class} (wiring : ∀ k, (g k).wiring = k.wiring)
    (constructor : ∀ k, (g k).constructor = k.constructor) :
    s.LeavesTemplates (s.modifyClass c g) := by
  refine { Store.LeavesTemplates.refl s with classes_le := ?_, wiring := ?_, constructor := ?_ }
  · exact (Store.size_modifyClass ..).ge
  · intro x
    rw [Store.classAt_modifyClass]
    split
    · exact wiring _
    · rfl
  · intro x _
    rw [Store.classAt_modifyClass]
    split
    · exact constructor _
    · rfl

/-- A class is stored that is not wired. -/
theorem leavesTemplates_allocate {k : Class} (unwired : k.wiring = none) :
    s.LeavesTemplates ((allocate k).run s).2 := by
  have read : ∀ x, ((allocate k).run s).2.classAt x =
      if x.index = s.classes.size then k else s.classAt x := Store.classAt_push s k
  refine { Store.LeavesTemplates.refl s with classes_le := ?_, wiring := ?_, constructor := ?_ }
  · exact (Nat.le_succ _).trans (Array.size_push ..).ge
  · intro x
    rw [read]
    split
    · rename_i last
      have beyond : s.classAt x = default := by
        rw [Store.classAt, last, Array.getElem?_eq_none le_rfl]
        rfl
      rw [unwired, beyond]
      rfl
    · rfl
  · intro x inside
    rw [read, if_neg inside.ne]

end

/-! ### What is fixed -/

/-- A class has taken over the template of its constructor, for its delegate as well. -/
structure Store.TakesOver (s : Store) (c : ClassRef) (f : FunctionRef) (o : ObjectRef) : Prop where
  constructor : (s.classAt c).constructor = some f
  strategy : (s.classAt c).strategy? = some .takeover
  template : (s.classAt c).template? = some o
  delegate : (s.classAt c).delegate? = some o
  inside : f.index < s.functions.size
  fixed : (s.function f).templateWritable = false
  own : s.template f = some o

/-- What was fixed stays fixed, and only templates that are fixed are taken over. -/
structure Store.Secures (s t : Store) : Prop where
  functions_le : s.functions.size ≤ t.functions.size
  domains_le : s.domains.size ≤ t.domains.size
  writable : ∀ f : FunctionRef, f.index < s.functions.size →
    (t.function f).templateWritable = (s.function f).templateWritable
  template : ∀ f : FunctionRef, f.index < s.functions.size →
    (s.function f).templateWritable = false → t.template f = s.template f
  wiring : ∀ c w, (s.classAt c).wiring = some w → (t.classAt c).wiring = some w
  constructor : ∀ c f, (s.classAt c).constructor = some f → (t.classAt c).constructor = some f
  takeover : ∀ c w, (t.classAt c).wiring = some w → w.strategy = .takeover →
    (s.classAt c).wiring = some w ∨ ∃ f o, t.TakesOver c f o

/-- A class reads as the empty one beyond the store. -/
theorem Store.inside_of_constructor {c : ClassRef} {f : FunctionRef}
    (h : (s.classAt c).constructor = some f) : c.index < s.classes.size := by
  by_contra beyond
  rw [classAt, Array.getElem?_eq_none (not_lt.mp beyond)] at h
  cases h

/-- And so does a function. -/
theorem Store.inside_of_template {f : FunctionRef} {o : ObjectRef} (h : s.template f = some o) :
    f.index < s.functions.size := by
  by_contra beyond
  rw [template, function, Array.getElem?_eq_none (not_lt.mp beyond)] at h
  cases h

theorem Store.LeavesTemplates.secures (h : s.LeavesTemplates t) : s.Secures t where
  functions_le := h.functions_le
  domains_le := h.domains_le
  writable := h.writable
  template f hf _ := h.template f hf
  wiring c _ hw := (h.wiring c).trans hw
  constructor c _ hf := (h.constructor c (Store.inside_of_constructor hf)).trans hf
  takeover c _ hw _ := .inl ((h.wiring c).symm.trans hw)

theorem Store.TakesOver.later {c : ClassRef} {f : FunctionRef} {o : ObjectRef}
    (h : s.TakesOver c f o) (k : s.Secures t) : t.TakesOver c f o := by
  obtain ⟨w, wired, strategy⟩ := Option.map_eq_some_iff.mp h.strategy
  have same : (t.classAt c).wiring = (s.classAt c).wiring := (k.wiring c w wired).trans wired.symm
  refine ⟨k.constructor c f h.constructor, ?_, ?_, ?_, h.inside.trans_le k.functions_le, ?_, ?_⟩
  · rw [Class.strategy?, same]
    exact h.strategy
  · rw [Class.template?, same]
    exact h.template
  · rw [Class.delegate?, same]
    exact h.delegate
  · exact (k.writable f h.inside).trans h.fixed
  · exact (k.template f h.inside h.fixed).trans h.own

namespace Store.Secures

theorem refl (s : Store) : s.Secures s := (LeavesTemplates.refl s).secures

/-- Neither functions nor classes are written. -/
theorem of_eq (functions : t.functions = s.functions) (classes : t.classes = s.classes)
    (domains_le : s.domains.size ≤ t.domains.size) : s.Secures t :=
  (LeavesTemplates.of_eq functions classes domains_le).secures

theorem trans (h : s.Secures t) (k : t.Secures u) : s.Secures u where
  functions_le := h.functions_le.trans k.functions_le
  domains_le := h.domains_le.trans k.domains_le
  writable f hf := (k.writable f (hf.trans_le h.functions_le)).trans (h.writable f hf)
  template f hf fixed :=
    (k.template f (hf.trans_le h.functions_le) ((h.writable f hf).trans fixed)).trans
      (h.template f hf fixed)
  wiring c w hw := k.wiring c w (h.wiring c w hw)
  constructor c f hf := k.constructor c f (h.constructor c f hf)
  takeover c w hw taken := by
    rcases k.takeover c w hw taken with before | new
    · rcases h.takeover c w before taken with first | ⟨f, o, second⟩
      · exact .inl first
      · exact .inr ⟨f, o, second.later k⟩
    · exact .inr new

/-- A sequence secures what its steps do. -/
theorem bind {α β : Type} {x : Run α} {f : α → Run β} (first : s.Secures (exec x s).2)
    (then_ : ∀ a t, exec x s = (.ok a, t) → t.Secures (exec (f a) t).2) :
    s.Secures (exec (x >>= f) s).2 :=
  exec_bind_rel (r := Store.Secures) trans first then_

end Store.Secures

/-! ### What the operations do -/

/-- A template that may be replaced is not fixed. -/
theorem secures_setTemplate (f : FunctionRef) (o : ObjectRef) (s : Store) :
    s.Secures (exec (setTemplate f o) s).2 := by
  rw [exec_setTemplate]
  split
  · rename_i writable
    refine { Store.Secures.refl s with
      functions_le := ?_, writable := ?_, template := ?_, takeover := ?_ }
    · exact (Array.size_modify ..).ge
    · intro g _
      rw [Store.function_modifyFunction]
      split <;> rfl
    · intro g _ fixed
      have ne : f ≠ g := by
        rintro rfl
        rw [writable] at fixed
        cases fixed
      rw [Store.template, Store.function_modifyFunction, if_neg fun e => ne e.1]
      rfl
    · exact fun c w hw _ => .inl hw
  · split <;> exact .refl s

/-- Code that runs replaces a template, or leaves all of them. -/
theorem Effect.secures (h : Effect s t) : s.Secures t := by
  cases h with
  | none => exact .refl s
  | newObject parent => exact .of_eq rfl rfl le_rfl
  | store o key v => exact .of_eq rfl rfl le_rfl
  | setEnumerable o key on => exact .of_eq rfl rfl le_rfl
  | setTemplate f o => exact secures_setTemplate f o s

/-- A class that has a constructor keeps it. -/
theorem secures_setConstructor (d : DomainRef) (c : ClassRef) (f : FunctionRef) (s : Store) :
    s.Secures ((setConstructor d c f).run s).2 := by
  rw [setConstructor_run]
  cases own : (s.classAt c).constructor with
  | some g => exact (leavesTemplates_emit ..).secures
  | none =>
    have wiring : ∀ x,
        ((s.modifyClass c fun k => { k with constructor := some f }).classAt x).wiring =
          (s.classAt x).wiring := by
      intro x
      rw [Store.classAt_modifyClass]
      split <;> rfl
    refine { Store.Secures.refl s with wiring := ?_, constructor := ?_, takeover := ?_ }
    · exact fun x w hw => (wiring x).trans hw
    · intro x g hg
      have ne : c ≠ x := by
        rintro rfl
        rw [own] at hg
        cases hg
      rwa [Store.classAt_modifyClass, if_neg fun e => ne e.1]
    · exact fun x w hw _ => .inl ((wiring x).symm.trans hw)

/-- A class is wired that was not, and takes nothing over but the fixed template of its
constructor. -/
theorem secures_wire {c : ClassRef} {w : Wiring} (unwired : (s.classAt c).wiring = none)
    (taken : w.strategy = .takeover → w.delegate = w.template ∧ ∃ f,
      (s.classAt c).constructor = some f ∧ (s.function f).templateWritable = false ∧
        s.template f = some w.template) :
    s.Secures (s.modifyClass c fun k => { k with wiring := some w }) := by
  refine { Store.Secures.refl s with wiring := ?_, constructor := ?_, takeover := ?_ }
  · intro x v hv
    have ne : c ≠ x := by
      rintro rfl
      rw [unwired] at hv
      cases hv
    rwa [Store.classAt_modifyClass, if_neg fun e => ne e.1]
  · intro x f hf
    rw [Store.classAt_modifyClass]
    split <;> exact hf
  · intro x v hv takeover
    rw [Store.classAt_modifyClass] at hv
    split at hv
    · rename_i here
      obtain ⟨rfl, inside⟩ := here
      obtain rfl := Option.some.inj hv
      obtain ⟨same, f, constructor, fixed, own⟩ := taken takeover
      have written := (s.classAt_modifyClass c c fun k => { k with wiring := some w }).trans
        (if_pos ⟨rfl, inside⟩)
      refine .inr ⟨f, w.template, ?_, ?_, ?_, ?_, Store.inside_of_template own, fixed, own⟩ <;>
        rw [written]
      · exact constructor
      · exact congrArg some takeover
      · rfl
      · exact congrArg some same
    · exact .inl hv

theorem secures_configure (c : ClassRef) (base : Option ClassRef) (s : Store) :
    s.Secures (exec (configure c base) s).2 := by
  rw [exec_configure]
  split
  · exact .refl s
  rename_i unwired
  replace unwired : (s.classAt c).wiring = none := by simpa using unwired
  rcases fixed : fixedTemplate? s (s.classAt c) with e | (_ | template)
  · exact .refl s
  · rcases delegateParent? s (s.classAt c) base with e | parent
    · exact .refl s
    · -- the objects that are built for the class are no functions
      have made : ((buildTemplates (s.classAt c) base parent).run s).2.functions = s.functions ∧
          ((buildTemplates (s.classAt c) base parent).run s).2.classes = s.classes ∧
          ((buildTemplates (s.classAt c) base parent).run s).2.domains = s.domains ∧
          ((buildTemplates (s.classAt c) base parent).run s).1.strategy = .build := by
        rw [buildTemplates_run]
        cases (s.classAt c).hostTemplate? s <;> exact ⟨rfl, rfl, rfl, rfl⟩
      obtain ⟨functions, classes, domains, strategy⟩ := made
      have built := Store.LeavesTemplates.of_eq functions classes (domains ▸ le_rfl)
      refine built.secures.trans (secures_wire ((built.wiring c).trans unwired) fun taken => ?_)
      cases strategy.symm.trans taken
  · exact secures_wire unwired fun _ => ⟨rfl, fixedTemplate?_ok fixed⟩

theorem secures_finishClass (c : ClassRef) (f : FunctionRef) (w : Wiring) (s : Store) :
    s.Secures (exec (finishClass c f w) s).2 := by
  have marked := leavesTemplates_modifyClass s c
    (g := fun x => { x with constructorNoInit := some f }) (fun _ => rfl) fun _ => rfl
  have linked := marked.trans (leavesTemplates_setFunctionClass _ c f)
  simp only [finishClass, exec_modify_bind]
  refine linked.secures.trans (.bind (secures_setTemplate f w.template _) fun _ t _ => ?_)
  simp only [exec_modify_bind, exec_modify]
  exact .of_eq rfl rfl le_rfl

theorem secures_create (d : DomainRef) (c : ClassRef) (base : Option ClassRef)
    (offered : FunctionRef) (s : Store) : s.Secures (exec (create d c base offered) s).2 := by
  rw [exec_create]
  split
  · exact .refl s
  split
  · exact .refl s
  refine .bind (secures_configure c base s) fun _ t _ => ?_
  unfold settleClass
  rw [exec_lift_bind, exec_get_bind]
  refine (secures_setConstructor d c offered t).trans ?_
  dsimp only
  split
  · exact .refl _
  · exact .refl _
  · exact secures_finishClass ..

/-! ### Linking -/

theorem leavesTemplates_allocateFor (descriptor : ClassDescriptor) (s : Store) :
    s.LeavesTemplates (exec (allocateFor descriptor) s).2 := by
  unfold allocateFor
  split
  · rw [exec_lift]
    unfold allocateBytecode
    rw [run_bind]
    have made : s.LeavesTemplates ((newObject none).run s).2 := .of_eq rfl rfl le_rfl
    exact made.trans (leavesTemplates_allocate _ rfl)
  · rw [exec_get_bind]
    split
    · exact .refl s
    · rename_i id _ definition _
      have made := (definition.materialize_made s).confined.leavesTemplates
        (fun f => Set.notMem_empty f) (definition.classes_materialize s)
      exact made.trans (leavesTemplates_allocate _ rfl)

theorem leavesTemplates_prepareClass (d : DomainRef) (descriptor : ClassDescriptor)
    (base : Option ClassRef) (scope : Scope) (c : ClassRef) (s : Store) :
    s.LeavesTemplates ((prepareClass d descriptor base scope c).run s).2 := by
  obtain ⟨r, g, run⟩ := prepareClass_run d descriptor base scope c s
  rw [run]
  have recorded : s.LeavesTemplates (s.record r) := .of_eq rfl rfl le_rfl
  have entered := recorded.trans (leavesTemplates_modifyClass _ c
    (g := (·.inside (scope.push (.class c)))) (fun _ => rfl) fun _ => rfl)
  exact (entered.trans (leavesTemplates_newFunction _ _)).trans
    (leavesTemplates_modifyClass _ c (fun _ => rfl) fun _ => rfl)

section
variable {d : DomainRef}

theorem leavesTemplates_checkClass (c : ClassRef) (lt : d.index < s.domains.size) :
    s.LeavesTemplates (exec (checkClass d c) s).2 := by
  rcases exec_checkClass c lt with
    ⟨_, run⟩ | ⟨_, _, _, _, _, run⟩ | ⟨_, _, u, emits, run⟩ <;> rw [run]
  · exact .refl s
  · exact .refl s
  · have reported : s.LeavesTemplates u :=
      .of_eq emits.functions emits.classes emits.confined.domains_eq.ge
    exact reported.trans (leavesTemplates_modifyClass u c (fun _ => rfl) fun _ => rfl)

theorem leavesTemplates_install {x : BindingContext} (lt : x.domain.index < s.domains.size)
    (traits : List Trait) (target : Option ObjectRef) (c : ClassRef)
    (keep : Bindings → Class → Class) (wiring : ∀ b k, (keep b k).wiring = k.wiring)
    (constructor : ∀ b k, (keep b k).constructor = k.constructor) :
    s.LeavesTemplates ((x.install traits target c keep).run s).2 := by
  have binds := (x.build_spec traits s lt).1
  rw [BindingContext.install_run]
  have bound := binds.confined.leavesTemplates (fun f => Set.notMem_empty f) binds.classes
  refine (bound.trans ?_).trans (leavesTemplates_modifyClass _ c (wiring _) (constructor _))
  unfold BindingContext.applied
  cases target with
  | none => exact .refl _
  | some o => exact .of_eq rfl rfl (Store.size_modifyDomain ..).ge

theorem Announced.leavesTemplates (h : Announced d s t) : s.LeavesTemplates t :=
  .of_eq h.functions h.classes h.domains_eq.ge

theorem leavesTemplates_bindMembers (c : ClassRef) (base : Option ClassRef) (inner : Scope)
    (lt : d.index < s.domains.size) :
    s.LeavesTemplates ((bindMembers d c base inner).run s).2 := by
  have statics : s.LeavesTemplates (installStatics d c inner s).2 :=
    leavesTemplates_install (x := staticContext d c inner s) lt _ _ c _ (fun _ _ => rfl)
      fun _ _ => rfl
  have instances := leavesTemplates_install
    (x := instanceContext d c base inner (installStatics d c inner s).2)
    (lt.trans_le statics.domains_le)
    ((installStatics d c inner s).2.classAt c).descriptor.instanceTraits
    ((installStatics d c inner s).2.classAt c).template? c
    (fun b k => { k with instanceBindings := some b }) (fun _ _ => rfl) fun _ _ => rfl
  rw [bindMembers_run, bindOwnMembers_run]
  exact (statics.trans instances).trans (Announced.shareClassMembers d c _ _).leavesTemplates

end

/-! ### Steps and runs -/

/-- Something is done that may want to replace a template. -/
inductive TemplateStep (s : Store) : Store → Prop
  /-- A template is set. -/
  | setTemplate (f : FunctionRef) (o : ObjectRef) : TemplateStep s (exec (setTemplate f o) s).2
  /-- A function is called; it may be the setter that scripts replace templates with. -/
  | call (f : FunctionRef) (this : Value) (args : List Value) :
      TemplateStep s (exec (call f this args) s).2
  /-- A property is written, which may call that setter. -/
  | setProperty (o : ObjectRef) (key : String) (v : Value) :
      TemplateStep s (exec (setProperty o key v) s).2
  /-- A class is offered a constructor. -/
  | setConstructor (d : DomainRef) (c : ClassRef) (f : FunctionRef) :
      TemplateStep s ((setConstructor d c f).run s).2
  /-- A class is configured, or is to be. -/
  | configure (c : ClassRef) (base : Option ClassRef) : TemplateStep s (exec (configure c base) s).2
  /-- A class is created, or is to be. -/
  | create (d : DomainRef) (c : ClassRef) (base : Option ClassRef) (offered : FunctionRef) :
      TemplateStep s (exec (create d c base offered) s).2
  /-- Something else is done; functions and classes may be made. -/
  | other {t : Store} : s.LeavesTemplates t → TemplateStep s t

/-- **A step.** -/
theorem TemplateStep.secures (h : TemplateStep s t) : s.Secures t := by
  cases h with
  | setTemplate f o => exact secures_setTemplate f o s
  | call f this args => exact (effect_call f this args s).secures
  | setProperty o key v => exact (effect_writeProperty effect_call o key v s).secures
  | setConstructor d c f => exact secures_setConstructor d c f s
  | configure c base => exact secures_configure c base s
  | create d c base offered => exact secures_create d c base offered s
  | other leaves => exact leaves.secures

/-- One thing is done after the other, and classes are linked. -/
inductive TemplateRun (s : Store) : Store → Prop
  /-- Nothing is done yet. -/
  | start : TemplateRun s s
  /-- One step more. -/
  | step {t u : Store} : TemplateRun s t → TemplateStep t u → TemplateRun s u
  /-- A class is linked, or is to be. -/
  | link {t : Store} {d : DomainRef} : TemplateRun s t → d.index < t.domains.size →
      (descriptor : ClassDescriptor) → (base : Option ClassRef) → (scope : Scope) →
      TemplateRun s (exec (link d descriptor base scope) t).2

open Relation (ReflTransGen)

/-- **Steps.** -/
theorem secures_of_steps (h : ReflTransGen TemplateStep s t) : s.Secures t := by
  induction h with
  | refl => exact .refl s
  | tail _ step ih => exact ih.trans step.secures

theorem TemplateRun.steps (h : TemplateRun s t) (k : ReflTransGen TemplateStep t u) :
    TemplateRun s u := by
  induction k with
  | refl => exact h
  | tail _ step ih => exact ih.step step

theorem TemplateRun.trans (h : TemplateRun s t) (k : TemplateRun t u) : TemplateRun s u := by
  induction k with
  | start => exact h
  | step _ step ih => exact ih.step step
  | link _ lt descriptor base scope ih => exact ih.link lt descriptor base scope

theorem steps_bind {α β : Type} {x : Run α} {f : α → Run β}
    (first : ReflTransGen TemplateStep s (exec x s).2)
    (then_ : ∀ a t, exec x s = (.ok a, t) → ReflTransGen TemplateStep t (exec (f a) t).2) :
    ReflTransGen TemplateStep s (exec (x >>= f) s).2 :=
  exec_bind_rel (r := ReflTransGen TemplateStep) .trans first then_

/-- Once a class is allocated, with the host objects that are made for it, the rest of its link is
done in such steps, up to the end or to where the link fails. -/
theorem steps_of_allocated {d : DomainRef} (lt : d.index < s.domains.size)
    {descriptor : ClassDescriptor} (valid : descriptor.validate = .ok ()) (base : Option ClassRef)
    (scope : Scope) {c : ClassRef} (run : exec (allocateFor descriptor) s = (.ok c, t)) :
    ReflTransGen TemplateStep t (exec (link d descriptor base scope) s).2 := by
  have allocated := leavesTemplates_allocateFor descriptor s
  rw [exec_link, valid]
  simp only
  rw [exec_bind, run]
  rw [run] at allocated
  have prepared := leavesTemplates_prepareClass d descriptor base scope c t
  simp only
  rw [exec_lift_bind]
  generalize (prepareClass d descriptor base scope c).run t = r at prepared ⊢
  obtain ⟨offered, u⟩ := r
  have lt' := lt.trans_le (allocated.trans prepared).domains_le
  have created := secures_create d c base offered u
  refine .head (.other prepared) (steps_bind (.single (.create d c base offered)) fun _ v run => ?_)
  rw [run] at created
  replace lt' := lt'.trans_le created.domains_le
  have checked := leavesTemplates_checkClass c lt'
  refine steps_bind (.single (.other checked)) fun _ w run => ?_
  rw [run] at checked
  replace lt' := lt'.trans_le checked.domains_le
  have bound := leavesTemplates_bindMembers c base (scope.push (.class c)) lt'
  rw [exec_lift_bind, exec_lift_bind, exec_pure]
  generalize ((bindMembers d c base (scope.push (.class c))).run w).2 = m at bound ⊢
  exact .single (.other (bound.trans (Announced.announceClass d c m).leavesTemplates))

/-- A link is done in steps. -/
theorem steps_link {d : DomainRef} (lt : d.index < s.domains.size) (descriptor : ClassDescriptor)
    (base : Option ClassRef) (scope : Scope) :
    ReflTransGen TemplateStep s (exec (link d descriptor base scope) s).2 := by
  have allocated := leavesTemplates_allocateFor descriptor s
  cases valid : descriptor.validate with
  | error e =>
    rw [exec_link, valid]
  | ok _ =>
    rcases run : exec (allocateFor descriptor) s with ⟨e | c, t⟩ <;> rw [run] at allocated
    · rw [exec_link, valid]
      simp only
      rw [exec_bind, run]
      exact .single (.other allocated)
    · exact .head (.other allocated) (steps_of_allocated lt valid base scope run)

/-- **A run.** -/
theorem TemplateRun.secures (h : TemplateRun s t) : s.Secures t := by
  induction h with
  | start => exact .refl s
  | step _ step ih => exact ih.trans step.secures
  | link _ lt descriptor base scope ih =>
    exact ih.trans (secures_of_steps (steps_link lt descriptor base scope))

/-- Only fixed templates are taken over. -/
theorem takesOver_of_run (start : s.classes = #[]) (h : TemplateRun s t) {c : ClassRef}
    {w : Wiring} (wired : (t.classAt c).wiring = some w) (taken : w.strategy = .takeover) :
    ∃ f o, t.TakesOver c f o := by
  rcases h.secures.takeover c w wired taken with before | now
  · rw [Store.classAt, start] at before
    cases before
  · exact now

/-- A function has this template and accepts no other, and the classes that it constructs by
takeover have it as well. -/
structure Store.HoldsTemplate (s : Store) (f : FunctionRef) (o : ObjectRef) : Prop where
  template : s.template f = some o
  accepts : exec (setTemplate f o) s = (.ok (), s)
  refuses : ∀ p, p ≠ o →
    exec (setTemplate f p) s = (.error (.breach (.templateFixed (s.function f).name)), s)
  takeover : ∀ c, (s.classAt c).constructor = some f →
    (s.classAt c).strategy? = some .takeover → s.TakesOver c f o

/-- **A fixed template is never replaced.** In a store that was reached from one without classes,
let a function have a template that is fixed, as a host constructor has that is made with one. Then
the function holds the template in every later store, and a class that has taken it over has it in
every store after that. A constructor that is made for a class that is being linked is such a
function as well, since the rest of the link is a run (`steps_of_allocated`). -/
theorem template_fixed {s₀ : Store} {f : FunctionRef} {o : ObjectRef} (start : s₀.classes = #[])
    (before : TemplateRun s₀ s) (fixed : (s.function f).templateWritable = false)
    (made : s.template f = some o) (run : TemplateRun s t) :
    t.HoldsTemplate f o ∧ ∀ c, t.TakesOver c f o →
      ∀ u, TemplateRun t u → u.TakesOver c f o := by
  have inside := Store.inside_of_template made
  have secures := run.secures
  have template : t.template f = some o := (secures.template f inside fixed).trans made
  have still : (t.function f).templateWritable = false := (secures.writable f inside).trans fixed
  have refused : ¬(t.function f).templateWritable = true := by simp [still]
  refine ⟨⟨template, ?_, fun p ne => ?_, fun c constructor strategy => ?_⟩,
    fun c taken u more => taken.later more.secures⟩
  · rw [exec_setTemplate, if_neg refused, if_pos template]
  · have other : t.template f ≠ some p := by
      rw [template]
      exact fun same => ne (Option.some.inj same).symm
    rw [exec_setTemplate, if_neg refused, if_neg other]
  · obtain ⟨w, wired, taken⟩ := Option.map_eq_some_iff.mp strategy
    obtain ⟨g, p, takes⟩ := takesOver_of_run start (before.trans run) wired taken
    obtain rfl : g = f := Option.some.inj (takes.constructor.symm.trans constructor)
    obtain rfl : p = o := Option.some.inj (takes.own.symm.trans template)
    exact takes

end

/-! ### A class over a fixed template -/

namespace Sample

/-- A host class whose constructor has a fixed template. -/
def fixedDefinition : NativeDefinition :=
  { NativeDefinition.bare "FixedClass" with
    constructor := some (ConstructorDefinition.builtin "Fixed" 0 .receiver).fixed }

/-- A store with one domain and this host class. -/
def withFixed : Store :=
  ((newDomain .standard .inert).run
    { Store.initial with natives := ⟨[], [("FixedClass", fixedDefinition)], false⟩ }).2

/-- A class over it. -/
def fixedDescriptor : ClassDescriptor :=
  { ClassDescriptor.bare "Fixed" with nativeId := some "FixedClass" }

/-- The class is allocated, and the constructor made. -/
def allocatedFixed : Store := (exec (allocateFor fixedDescriptor) withFixed).2

/-- The class is linked. -/
def linkedFixed : Store := (exec (link ⟨0⟩ fixedDescriptor none (.global ⟨0⟩)) withFixed).2

end Sample

/-- The constructor that is made for a class keeps the template it is made with while the class is
linked, and the class takes it over. -/
theorem template_fixed_linked :
    TemplateRun Sample.allocatedFixed Sample.linkedFixed ∧
      Sample.allocatedFixed.template ⟨0⟩ = some ⟨2⟩ ∧
      Sample.linkedFixed.HoldsTemplate ⟨0⟩ ⟨2⟩ ∧ Sample.linkedFixed.TakesOver ⟨0⟩ ⟨0⟩ ⟨2⟩ := by
  have before : TemplateRun Sample.withFixed Sample.allocatedFixed :=
    TemplateRun.start.step (.other (leavesTemplates_allocateFor ..))
  have run : TemplateRun Sample.allocatedFixed Sample.linkedFixed :=
    TemplateRun.start.steps (steps_of_allocated (by decide +kernel) (by decide +kernel) none _
      (exec_eq_of_toOption (a := ⟨0⟩) (by decide +kernel)))
  have made : Sample.allocatedFixed.template ⟨0⟩ = some ⟨2⟩ := by decide +kernel
  obtain ⟨holds, _⟩ := template_fixed rfl before (by decide +kernel) made run
  exact ⟨run, made, holds, holds.takeover ⟨0⟩ (by decide +kernel) (by decide +kernel)⟩

end ClassLink
