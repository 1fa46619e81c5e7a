import ClassLink.Proofs.HostObjects

/-!
# Allocating, configuring and creating classes

What the three steps of construction do to the store. A class that is allocated for a
descriptor is new, and so are its class object and its host constructor with the template
(`Allocated`). Configuring is one equation, with a case for each fault and for each of the two
strategies (`exec_configure`). A class that is created has its wiring, its constructor and
nothing else changed (`Created`).
-/

namespace ClassLink

/-! ### Allocation -/

/-- The objects and functions that a class was allocated with are new, and the class object is
none of the others. -/
structure Class.PartsNew (k : Class) (s t : Store) : Prop where
  object : k.object.New s t
  constructor : ∀ f, k.constructor = some f → s.functions.size ≤ f.index ∧
    f.index < t.functions.size ∧ ∃ o, t.template f = some o ∧
      k.object.index < o.index ∧ o.index < t.objects.size ∧ t.parent o = none
  extras : ∀ o ∈ k.staticNatives.extras ++ k.instanceNatives.extras,
    k.object.index < o.index ∧ o.index < t.objects.size

theorem Class.PartsNew.later {k : Class} {s t u : Store} {p : Footprint} (h : k.PartsNew s t)
    (later : Confined p t u) (apart : ∀ o : ObjectRef, k.object.index < o.index → o ∉ p.linked)
    (functions : ∀ f, f ∉ p.functions) : k.PartsNew s u := by
  refine ⟨h.object.mono le_rfl later.objects_le, fun f hf => ?_, fun o ho => ?_⟩
  · obtain ⟨le, lt, o, template, above, inside, parent⟩ := h.constructor f hf
    refine ⟨le, lt.trans_le later.functions_le, o, ?_, above,
      inside.trans_le later.objects_le, ?_⟩
    · rw [Store.template, later.function f lt (functions f)]
      exact template
    · rw [later.parent o inside (apart o above), parent]
  · exact ⟨(h.extras o ho).1, (h.extras o ho).2.trans_le later.objects_le⟩

/-- A class has been allocated for a descriptor and not constructed yet. -/
structure Allocated (d : ClassDescriptor) (s t : Store) (c : ClassRef) : Prop where
  confined : Confined .none s t
  le : s.classes.size ≤ c.index
  lt : c.index < t.classes.size
  descriptor : (t.classAt c).descriptor = d
  nativeId : (t.classAt c).nativeId = d.nativeId
  wiring : (t.classAt c).wiring = none
  constructorNoInit : (t.classAt c).constructorNoInit = none
  parts : (t.classAt c).PartsNew s t
  owner : t.owner (t.classAt c).object = some c

theorem Allocated.later {d : ClassDescriptor} {s t u : Store} {c : ClassRef}
    (h : Allocated d s t c) (k : Confined .none t u) : Allocated d s u c := by
  have same : u.classAt c = t.classAt c := k.classAt c h.lt (Set.notMem_empty _)
  refine ⟨h.confined.trans k, h.le, h.lt.trans_le k.classes_le, same ▸ h.descriptor,
    same ▸ h.nativeId, same ▸ h.wiring, same ▸ h.constructorNoInit, ?_, ?_⟩
  · exact same ▸ h.parts.later k (fun o _ => Set.notMem_empty o) fun f => Set.notMem_empty f
  · rw [same, k.owner _ h.parts.object.2 (Set.notMem_empty _)]
    exact h.owner

/-- The scope and the holders of an allocated class may be filled in. -/
theorem Allocated.modifyClass {d : ClassDescriptor} {s t : Store} {c : ClassRef}
    (h : Allocated d s t c) {g : Class → Class} (kept : ∀ x, g x = { x with
      scope := (g x).scope, staticHolders := (g x).staticHolders,
      instanceHolders := (g x).instanceHolders }) : Allocated d s (t.modifyClass c g) c := by
  have written : Confined { Footprint.none with classes := {c} } t (t.modifyClass c g) :=
    confined_modifyClass rfl g
  have changed : (t.modifyClass c g).classAt c = g (t.classAt c) :=
    (Store.classAt_modifyClass ..).trans (if_pos ⟨rfl, h.lt⟩)
  have confined : Confined .none s (t.modifyClass c g) := by
    refine (h.confined.of_none.trans written).mono (fun _ hp => hp.elim) (fun _ hp => hp.elim)
      (fun _ hp => hp.elim) ?_ (fun _ hp => hp.elim)
    rintro _ rfl lt
    exact absurd lt h.le.not_gt
  rw [kept] at changed
  refine ⟨confined, h.le, h.lt.trans_le written.classes_le, ?_, ?_, ?_, ?_, ?_, ?_⟩ <;>
    rw [changed]
  · exact h.descriptor
  · exact h.nativeId
  · exact h.wiring
  · exact h.constructorNoInit
  · exact ⟨h.parts.object, h.parts.constructor, h.parts.extras⟩
  · exact h.owner

theorem allocate_run (k : Class) (s : Store) :
    (allocate k).run s = (⟨s.classes.size⟩,
      ({ s with classes := s.classes.push k } : Store).setOwner k.object ⟨s.classes.size⟩) := rfl

theorem classAt_allocate (k : Class) (s : Store) :
    ((allocate k).run s).2.classAt ((allocate k).run s).1 = k := by
  exact newClass_classAt s k

theorem owner_allocate (k : Class) (s : Store) (h : k.object.index < s.objects.size) :
    ((allocate k).run s).2.owner k.object = some ((allocate k).run s).1 := by
  simp only [allocate_run, Store.owner, Store.setOwner, Store.object_modifyObject]
  rw [if_pos ⟨trivial, h⟩]

theorem confined_allocate {p : Footprint} {k : Class} (h : k.object ∈ p.linked) (s : Store) :
    Confined p s ((allocate k).run s).2 :=
  (confined_newClass p s k).trans (confined_setOwner h _)

/-- Storing a class whose parts were made since `s`. -/
theorem allocate_allocated {d : ClassDescriptor} {s u : Store} {k : Class}
    (made : Confined .none s u) (parts : k.PartsNew s u) (descriptor : k.descriptor = d)
    (nativeId : k.nativeId = d.nativeId) (wiring : k.wiring = none)
    (constructorNoInit : k.constructorNoInit = none) :
    Allocated d s ((allocate k).run u).2 ((allocate k).run u).1 := by
  have stored : Confined { Footprint.none with linked := {k.object} } u ((allocate k).run u).2 :=
    confined_allocate (Set.mem_singleton_iff.mpr rfl) u
  have classAt := classAt_allocate k u
  refine ⟨?_, made.classes_le, ?_, by rw [classAt, descriptor], by rw [classAt, nativeId],
    by rw [classAt, wiring], by rw [classAt, constructorNoInit], ?_,
    by rw [classAt, owner_allocate k u parts.object.2]⟩
  · refine (made.of_none.trans stored).mono ?_ (fun _ hp => hp.elim) (fun _ hp => hp.elim)
      (fun _ hp => hp.elim) (fun _ hp => hp.elim)
    rintro _ rfl lt
    exact absurd lt parts.object.1.not_gt
  · simp [allocate_run, Store.setOwner, Store.modifyObject]
  · rw [classAt]
    refine parts.later stored ?_ fun f => Set.notMem_empty f
    rintro _ above rfl
    exact lt_irrefl _ above

theorem allocateBytecode_allocated (d : ClassDescriptor) (h : d.nativeId = none) (s : Store) :
    Allocated d s ((allocateBytecode d).run s).2 ((allocateBytecode d).run s).1 := by
  unfold allocateBytecode
  rw [run_bind]
  refine allocate_allocated (confined_newObject _ s none) ⟨⟨le_rfl, ?_⟩, ?_, ?_⟩ rfl h.symm rfl rfl
  · simp
  · intro f hf
    cases hf
  · exact fun _ ho => absurd ho List.not_mem_nil

theorem allocateNative_allocated (d : ClassDescriptor) {id : String} (h : d.nativeId = some id)
    {s u : Store} {parts : NativeParts} (made : parts.Made s u) :
    Allocated d s ((allocateNative d id parts).run u).2 ((allocateNative d id parts).run u).1 :=
  allocate_allocated made.confined
    ⟨⟨made.classObject.ge, made.classObject_lt⟩, made.constructor, made.extras⟩ rfl h.symm rfl rfl

/-- Allocating fails for a host class that is not registered, and writes nothing then. -/
theorem exec_allocateFor (d : ClassDescriptor) (s : Store) :
    (∃ c t, exec (allocateFor d) s = (.ok c, t) ∧ Allocated d s t c) ∨
      ∃ id, d.nativeId = some id ∧ s.natives.lookup id = none ∧
        exec (allocateFor d) s = (.error (.missingNativeClass id), s) := by
  unfold allocateFor
  cases h : d.nativeId with
  | none => exact .inl ⟨_, _, rfl, allocateBytecode_allocated d h s⟩
  | some id =>
    simp only [exec_get_bind]
    cases found : s.natives.lookup id with
    | none => exact .inr ⟨id, rfl, found, rfl⟩
    | some definition =>
      exact .inl ⟨_, _, rfl, allocateNative_allocated d h (definition.materialize_made s)⟩

theorem allocated_of_allocateFor {d : ClassDescriptor} {s t : Store} {c : ClassRef}
    (h : exec (allocateFor d) s = (.ok c, t)) : Allocated d s t c := by
  rcases exec_allocateFor d s with ⟨c', t', ok, allocated⟩ | ⟨_, _, _, error⟩
  · obtain ⟨same, rfl⟩ := Prod.mk.inj (ok.symm.trans h)
    obtain rfl := Except.ok.inj same
    exact allocated
  · cases error.symm.trans h

/-! ### Configuring -/

/-- The template that the host constructor of a class brings along. -/
def Class.hostTemplate? (k : Class) (s : Store) : Option ObjectRef := k.constructor.bind s.template

theorem buildTemplates_run (k : Class) (base : Option ClassRef) (parent : Option ObjectRef)
    (s : Store) :
    (buildTemplates k base parent).run s =
      match k.hostTemplate? s with
      | some template => (⟨base, .build, template, ⟨s.objects.size⟩⟩,
          ((newObject parent).run s).2.setParent template (some ⟨s.objects.size⟩))
      | none => (⟨base, .build, ⟨s.objects.size + 1⟩, ⟨s.objects.size⟩⟩,
          ((newObject (some ⟨s.objects.size⟩)).run ((newObject parent).run s).2).2) := by
  have same : k.constructor.bind ((newObject parent).run s).2.template = k.hostTemplate? s := rfl
  simp only [buildTemplates, run_bind]
  show (StateT.run (match k.constructor.bind ((newObject parent).run s).2.template with
    | some template => _
    | none => _) _) = _
  rw [same]
  cases k.hostTemplate? s with
  | some template => rfl
  | none =>
    show (Wiring.mk base .build ⟨(s.objects.push (.bare parent)).size⟩ ⟨s.objects.size⟩, _) = _
    rw [Array.size_push]
    rfl

/-- Configuring, with every fault and both strategies. -/
theorem exec_configure (c : ClassRef) (base : Option ClassRef) (s : Store) :
    exec (configure c base) s =
      if (s.classAt c).wiring.isSome then
        (.error (.breach (.alreadyConfigured (s.classAt c).name)), s)
      else
        match fixedTemplate? s (s.classAt c) with
        | .error e => (.error e, s)
        | .ok (some template) => (.ok (), s.modifyClass c fun x =>
            { x with wiring := some ⟨base, .takeover, template, template⟩ })
        | .ok none =>
          match delegateParent? s (s.classAt c) base with
          | .error e => (.error e, s)
          | .ok parent =>
            let built := (buildTemplates (s.classAt c) base parent).run s
            (.ok (), built.2.modifyClass c fun x => { x with wiring := some built.1 }) := by
  simp only [configure, exec_get_bind]
  split
  · rfl
  · rw [exec_bind, exec_liftExcept]
    rcases fixedTemplate? s (s.classAt c) with e | (_ | template)
    · rfl
    · simp only
      rw [exec_bind, exec_liftExcept]
      rcases delegateParent? s (s.classAt c) base with e | parent <;> rfl
    · rfl

/-- A fixed template is that of a constructor which accepts no other. -/
theorem fixedTemplate?_ok {s : Store} {k : Class} {template : ObjectRef}
    (h : fixedTemplate? s k = .ok (some template)) : ∃ f, k.constructor = some f ∧
      (s.function f).templateWritable = false ∧ s.template f = some template := by
  unfold fixedTemplate? at h
  cases hf : k.constructor with
  | none => simp [hf] at h
  | some f =>
    simp only [hf] at h
    split at h
    · simp at h
    · rename_i fixed
      split at h
      · rename_i o ho
        obtain rfl : o = template := by simpa using h
        exact ⟨f, rfl, by simpa using fixed, ho⟩
      · simp at h

/-- It is the one that the host constructor brings along. -/
theorem hostTemplate?_of_fixed {s : Store} {k : Class} {template : ObjectRef}
    (h : fixedTemplate? s k = .ok (some template)) : k.hostTemplate? s = some template := by
  obtain ⟨f, constructor, _, own⟩ := fixedTemplate?_ok h
  rw [Class.hostTemplate?, constructor]
  exact own

/-- What the delegate of a class delegates to is the delegate of its base, which is finished. -/
theorem delegateParent?_ok {s : Store} {k : Class} {base : Option ClassRef}
    {parent : Option ObjectRef} (h : delegateParent? s k base = .ok parent) :
    parent = base.bind (fun b => (s.classAt b).delegate?) ∧
      ∀ b, base = some b → (s.classAt b).delegate?.isSome := by
  unfold delegateParent? at h
  cases base with
  | none => simpa using h.symm
  | some b =>
    cases hb : (s.classAt b).delegate? with
    | none => simp [hb] at h
    | some o =>
      obtain rfl : some o = parent := by simpa [hb] using h
      exact ⟨by simp [hb], by rintro _ ⟨⟩; simp [hb]⟩

/-- Of the objects that existed, making the templates moves the one that the host constructor
brought along. -/
theorem confined_buildTemplates {p : Footprint} (k : Class) (b : Option ClassRef)
    (parent : Option ObjectRef) (s : Store) (host : ∀ o, k.hostTemplate? s = some o → o ∈ p.linked) :
    Confined p s ((buildTemplates k b parent).run s).2 := by
  rw [buildTemplates_run]
  cases h : k.hostTemplate? s with
  | some template =>
    exact (confined_newObject p s parent).trans (confined_setParent (host template h) _)
  | none => exact (confined_newObject p s parent).trans (confined_newObject p _ _)

/-- The two objects that are made for a class: the delegate, and a template that delegates to it
unless the host constructor brought one along, which then does. -/
structure Built (s t : Store) (host : Option ObjectRef) (b : Option ClassRef)
    (parent : Option ObjectRef) (w : Wiring) : Prop where
  classes : t.classes = s.classes
  base : w.base = b
  strategy : w.strategy = .build
  delegate : w.delegate.index = s.objects.size
  delegate_lt : w.delegate.index < t.objects.size
  template_lt : w.template.index < t.objects.size
  template : host = some w.template ∨ s.objects.size < w.template.index
  template_parent : t.parent w.template = some w.delegate
  delegate_parent : t.parent w.delegate = parent

theorem buildTemplates_built (k : Class) (b : Option ClassRef) (parent : Option ObjectRef)
    (s : Store) (inside : ∀ o, k.hostTemplate? s = some o → o.index < s.objects.size) :
    Built s ((buildTemplates k b parent).run s).2 (k.hostTemplate? s) b parent
      ((buildTemplates k b parent).run s).1 := by
  rw [buildTemplates_run]
  cases h : k.hostTemplate? s with
  | some template =>
    have lt := inside template h
    have ne : (⟨s.objects.size⟩ : ObjectRef) ∉ ({template} : Set ObjectRef) := by
      rintro rfl
      exact lt_irrefl _ lt
    have moved := confined_setParent (p := { Footprint.none with linked := {template} })
      (s := ((newObject parent).run s).2) rfl (some ⟨s.objects.size⟩)
    refine ⟨rfl, rfl, rfl, rfl, ?_, ?_, .inl rfl, ?_, ?_⟩
    · exact lt_of_lt_of_le (by simp) moved.objects_le
    · exact lt_of_lt_of_le (by simp; omega) moved.objects_le
    · simp only [Store.parent, Store.setParent, Store.object_modifyObject]
      rw [if_pos ⟨trivial, by simp; omega⟩]
    · exact (moved.parent _ (by simp) ne).trans (newObject_parent s parent)
  | none =>
    have second := confined_newObject .none ((newObject parent).run s).2 (some ⟨s.objects.size⟩)
    have size := newObject_size s parent
    refine ⟨rfl, rfl, rfl, rfl, ?_, ?_, .inr ?_, ?_, ?_⟩
    · exact lt_of_lt_of_le (by simp) second.objects_le
    · simp
    · exact Nat.lt_succ_self _
    · exact size ▸ newObject_parent ((newObject parent).run s).2 _
    · rw [second.parent _ (by simp) (Set.notMem_empty _), newObject_parent]

/-- Configuring, whether it succeeds or not, changes the class, and of the objects that existed
the template that its host constructor brought along. -/
theorem confined_configure {p : Footprint} {c : ClassRef} (hc : c ∈ p.classes)
    (b : Option ClassRef) {s : Store}
    (host : ∀ o, (s.classAt c).hostTemplate? s = some o → o ∈ p.linked) :
    Confined p s (exec (configure c b) s).2 := by
  rw [exec_configure]
  split
  · exact .refl _ s
  rcases fixedTemplate? s (s.classAt c) with e | (_ | template)
  · exact .refl _ s
  · rcases delegateParent? s (s.classAt c) b with e | parent
    · exact .refl _ s
    · exact (confined_buildTemplates _ b parent s host).trans (confined_modifyClass hc _)
  · exact confined_modifyClass hc _

/-- How a class was wired. -/
structure Wired (s t : Store) (c : ClassRef) (b : Option ClassRef) (w : Wiring) : Prop where
  classAt : t.classAt c = { s.classAt c with wiring := some w }
  base : w.base = b
  template_lt : w.template.index < t.objects.size
  delegate_lt : w.delegate.index < t.objects.size
  takeover : w.strategy = .takeover → w.delegate = w.template ∧
    (s.classAt c).hostTemplate? s = some w.template ∧ t.parent w.template = s.parent w.template
  build : w.strategy = .build → w.delegate.index = s.objects.size ∧
    ((s.classAt c).hostTemplate? s = some w.template ∨ s.objects.size < w.template.index) ∧
    t.parent w.template = some w.delegate ∧
    t.parent w.delegate = b.bind (fun a => (s.classAt a).delegate?) ∧
    ∀ a, b = some a → (s.classAt a).delegate?.isSome

theorem wired_of_configure {s t : Store} {c : ClassRef} {b : Option ClassRef}
    (lt : c.index < s.classes.size)
    (inside : ∀ o, (s.classAt c).hostTemplate? s = some o → o.index < s.objects.size)
    (h : exec (configure c b) s = (.ok (), t)) : ∃ w, Wired s t c b w := by
  rw [exec_configure] at h
  split at h
  · cases h
  rcases fixed : fixedTemplate? s (s.classAt c) with e | (_ | template) <;> rw [fixed] at h
  · cases h
  · rcases found : delegateParent? s (s.classAt c) b with e | parent <;> rw [found] at h
    · cases h
    · simp only at h
      obtain ⟨hp, finished⟩ := delegateParent?_ok found
      have built := buildTemplates_built (s.classAt c) b parent s inside
      generalize (buildTemplates (s.classAt c) b parent).run s = r at h built
      obtain ⟨w, u⟩ := r
      obtain rfl := (Prod.mk.inj h).2
      have classes : u.classes = s.classes := built.classes
      have same : u.classAt c = s.classAt c := by simp only [Store.classAt, classes]
      refine ⟨w, ?_, built.base, built.template_lt, built.delegate_lt,
        fun e => by (cases built.strategy.symm.trans e),
        fun _ => ⟨built.delegate, built.template, built.template_parent,
          hp ▸ built.delegate_parent, finished⟩⟩
      rw [Store.classAt_modifyClass, if_pos ⟨rfl, classes ▸ lt⟩, same]
  · obtain rfl := (Prod.mk.inj h).2
    have own := hostTemplate?_of_fixed fixed
    refine ⟨⟨b, .takeover, template, template⟩, ?_, rfl, inside _ own, inside _ own,
      fun _ => ⟨rfl, own, rfl⟩, fun e => by cases e⟩
    rw [Store.classAt_modifyClass, if_pos ⟨rfl, lt⟩]

/-! ### Creating -/

theorem setConstructor_run (d : DomainRef) (c : ClassRef) (f : FunctionRef) (s : Store) :
    (setConstructor d c f).run s =
      match (s.classAt c).constructor with
      | none => (true, s.modifyClass c fun x => { x with constructor := some f })
      | some _ =>
        (false, ((emit d (.warning (s.classAt c).name .ignoredConstructor)).run s).2) := by
  unfold setConstructor
  rw [run_bind]
  simp only [get_run]
  cases (s.classAt c).constructor with
  | none => rw [run_bind]; rfl
  | some g => rw [run_bind]; rfl

theorem confined_setConstructor {p : Footprint} {d : DomainRef} {c : ClassRef}
    (hc : c ∈ p.classes) (hd : d ∈ p.domains) (f : FunctionRef) (s : Store) :
    Confined p s ((setConstructor d c f).run s).2 := by
  rw [setConstructor_run]
  cases (s.classAt c).constructor with
  | none => exact confined_modifyClass hc _
  | some g => exact confined_emit hd _

/-- A class offered a constructor has one afterwards; its own is preferred. -/
theorem setConstructor_settled (d : DomainRef) (c : ClassRef) (f : FunctionRef) {s : Store}
    (lt : c.index < s.classes.size) :
    ((setConstructor d c f).run s).2.classAt c =
        { s.classAt c with constructor := some ((s.classAt c).constructor.getD f) } ∧
      ((setConstructor d c f).run s).2.objects = s.objects ∧
      ((setConstructor d c f).run s).2.functions = s.functions ∧
      ((setConstructor d c f).run s).2.classes.size = s.classes.size := by
  rw [setConstructor_run]
  cases h : (s.classAt c).constructor with
  | none =>
    refine ⟨?_, rfl, rfl, Array.size_modify ..⟩
    rw [Store.classAt_modifyClass, if_pos ⟨rfl, lt⟩]
    rfl
  | some g =>
    have same : { s.classAt c with constructor := some g } = s.classAt c := by rw [← h]
    exact ⟨same.symm, rfl, rfl, rfl⟩

theorem exec_setTemplate (f : FunctionRef) (o : ObjectRef) (s : Store) :
    exec (setTemplate f o) s =
      if (s.function f).templateWritable then
        (.ok (), s.modifyFunction f fun x => { x with template := some o })
      else if s.template f = some o then (.ok (), s)
      else (.error (.breach (.templateFixed (s.function f).name)), s) := by
  simp only [setTemplate, exec_get_bind, Store.template]
  by_cases writable : (s.function f).templateWritable = true
  · simp only [if_pos writable]
    rfl
  · by_cases same : (s.function f).template = some o
    · simp only [writable, same, if_true, Bool.false_eq_true, if_false, exec_pure]
    · simp only [writable, same, Bool.false_eq_true, if_false, exec_throw]

theorem confined_setTemplate {p : Footprint} {f : FunctionRef} (h : f ∈ p.functions)
    (o : ObjectRef) (s : Store) : Confined p s (exec (setTemplate f o) s).2 := by
  rw [exec_setTemplate]
  split
  · exact confined_modifyFunction h _
  · split <;> exact .refl p s

theorem template_of_setTemplate {f : FunctionRef} {o : ObjectRef} {s t : Store}
    (lt : f.index < s.functions.size) (h : exec (setTemplate f o) s = (.ok (), t)) :
    t.template f = some o ∧ t.objects = s.objects ∧ t.classes = s.classes := by
  rw [exec_setTemplate] at h
  split at h
  · obtain rfl := (Prod.mk.inj h).2
    refine ⟨?_, rfl, rfl⟩
    rw [Store.template, Store.function_modifyFunction, if_pos ⟨rfl, lt⟩]
  · split at h
    · obtain rfl := (Prod.mk.inj h).2
      exact ⟨‹_›, rfl, rfl⟩
    · cases h

/-- The last steps of creating a class. -/
def finishClass (c : ClassRef) (f : FunctionRef) (w : Wiring) : Run Unit := do
  modify (·.modifyClass c fun x => { x with constructorNoInit := some f })
  modify (·.setFunctionClass f c)
  setTemplate f w.template
  modify (·.setOwner w.template c)
  modify (·.setOwner w.delegate c)

theorem confined_finishClass {p : Footprint} {c : ClassRef} {f : FunctionRef} {w : Wiring}
    (hc : c ∈ p.classes) (hf : f ∈ p.functions) (template : w.template ∈ p.linked)
    (delegate : w.delegate ∈ p.linked) (s : Store) :
    Confined p s (exec (finishClass c f w) s).2 := by
  unfold finishClass
  refine Confined.bind (confined_modifyClass hc _) fun _ _ _ => ?_
  refine Confined.bind (confined_setFunctionClass hf c) fun _ _ _ => ?_
  refine Confined.bind (confined_setTemplate hf _ _) fun _ _ _ => ?_
  refine Confined.bind (confined_setOwner template c) fun _ _ _ => ?_
  exact confined_setOwner delegate c

/-- A class that is finished has its second constructor, a constructor with its template, and
owns template and delegate. -/
theorem finishClass_ok {c : ClassRef} {f : FunctionRef} {w : Wiring} {s t : Store}
    (lt : c.index < s.classes.size) (function_lt : f.index < s.functions.size)
    (template_lt : w.template.index < s.objects.size)
    (delegate_lt : w.delegate.index < s.objects.size)
    (h : exec (finishClass c f w) s = (.ok (), t)) :
    t.classAt c = { s.classAt c with constructorNoInit := some f } ∧
      t.template f = some w.template ∧ t.owner w.template = some c ∧
      t.owner w.delegate = some c ∧ ∀ o, t.parent o = s.parent o := by
  simp only [finishClass, exec_modify_bind] at h
  obtain ⟨_, u, set, h⟩ := exec_bind_ok.mp h
  obtain rfl := (Prod.mk.inj h).2
  obtain ⟨template, objects, classes⟩ := template_of_setTemplate
    (by simpa [Store.setFunctionClass, Store.modifyFunction, Store.modifyClass] using function_lt)
    set
  have size : u.objects.size = s.objects.size := by rw [objects]; rfl
  refine ⟨?_, template, ?_, ?_, fun o => ?_⟩
  · show u.classAt c = _
    rw [Store.classAt, classes]
    exact (Store.classAt_modifyClass ..).trans (if_pos ⟨rfl, lt⟩)
  · rw [Store.owner_setOwner]
    split
    · rfl
    · rw [Store.owner_setOwner, if_pos ⟨rfl, size ▸ template_lt⟩]
  · rw [Store.owner_setOwner, if_pos ⟨rfl, by rw [Store.size_setOwner, size]; exact delegate_lt⟩]
  · rw [Store.parent_setOwner, Store.parent_setOwner, Store.parent, Store.object, objects]
    rfl

theorem isUnresolved_finishClass {c : ClassRef} {f : FunctionRef} {w : Wiring} {s t : Store}
    (h : exec (finishClass c f w) s = (.ok (), t)) {g : FunctionRef} :
    (t.function g).isUnresolved = (s.function g).isUnresolved := by
  simp only [finishClass, exec_modify_bind] at h
  obtain ⟨_, u, set, h⟩ := exec_bind_ok.mp h
  obtain rfl := (Prod.mk.inj h).2
  generalize hv : (s.modifyClass c fun x => { x with constructorNoInit := some f }).setFunctionClass
    f c = v at set
  have first : (v.function g).isUnresolved = (s.function g).isUnresolved := by
    rw [← hv, Store.setFunctionClass, Store.function_modifyFunction]
    split <;> rfl
  rw [exec_setTemplate] at set
  refine Eq.trans ?_ first
  show (u.function g).isUnresolved = (v.function g).isUnresolved
  split at set
  · obtain rfl := (Prod.mk.inj set).2
    rw [Store.function_modifyFunction]
    split <;> rfl
  · split at set
    · obtain rfl := (Prod.mk.inj set).2
      rfl
    · cases set

/-- What creating a class does once the class is configured. -/
def settleClass (d : DomainRef) (c : ClassRef) (offered : FunctionRef) : Run Unit := do
  let _ ← setConstructor d c offered
  let k := (← get).classAt c
  match k.constructor, k.wiring with
  | none, _ => throw (.breach (.noConstructor k.name))
  | _, none => throw (.breach (.noTemplate k.name))
  | some f, some w => finishClass c f w

theorem exec_create (d : DomainRef) (c : ClassRef) (b : Option ClassRef) (offered : FunctionRef)
    (s : Store) :
    exec (create d c b offered) s =
      if (s.classAt c).constructorNoInit.isSome then
        (.error (.breach (.constructorAlreadySet (s.classAt c).name)), s)
      else if (s.classAt c).wiring.isSome then
        (.error (.breach (.templatesAlreadySet (s.classAt c).name)), s)
      else exec (configure c b >>= fun _ => settleClass d c offered) s := by
  unfold create settleClass finishClass
  simp only [exec_get_bind]
  split
  · simp
  · split
    · simp
    · rfl

/-- A configured class always gets a constructor. -/
theorem exec_settleClass {d : DomainRef} {c : ClassRef} {offered : FunctionRef} {w : Wiring}
    {s : Store} (lt : c.index < s.classes.size) (wiring : (s.classAt c).wiring = some w) :
    exec (settleClass d c offered) s =
      exec (finishClass c ((s.classAt c).constructor.getD offered) w)
        ((setConstructor d c offered).run s).2 := by
  obtain ⟨classAt, _⟩ := setConstructor_settled d c offered lt
  unfold settleClass
  rw [exec_lift_bind, exec_get_bind, classAt]
  simp only [wiring]

section
variable {s t : Store} {d : DomainRef} {c : ClassRef} {b : Option ClassRef}
  {offered : FunctionRef}

/-- Creating a class, whether it succeeds or not, changes the class, its constructor with the
template, and the diagnostics of the domain. -/
theorem confined_create {p : Footprint} (hc : c ∈ p.classes) (hd : d ∈ p.domains)
    (hf : (s.classAt c).constructor.getD offered ∈ p.functions)
    (host : ∀ o, (s.classAt c).hostTemplate? s = some o → o ∈ p.linked)
    (new : ∀ o : ObjectRef, s.objects.size ≤ o.index → o ∈ p.linked) (lt : c.index < s.classes.size)
    (inside : ∀ o, (s.classAt c).hostTemplate? s = some o → o.index < s.objects.size) :
    Confined p s (exec (create d c b offered) s).2 := by
  rw [exec_create]
  split
  · exact .refl _ s
  split
  · exact .refl _ s
  have first := confined_configure hc b host
  refine Confined.bind first fun _ u configured => ?_
  obtain ⟨w, wired⟩ := wired_of_configure lt inside configured
  rw [configured] at first
  have wiring : (u.classAt c).wiring = some w := by rw [wired.classAt]
  have constructor : (u.classAt c).constructor = (s.classAt c).constructor := by rw [wired.classAt]
  have written : w.template ∈ p.linked ∧ w.delegate ∈ p.linked := by
    cases e : w.strategy with
    | takeover =>
      obtain ⟨same, own, _⟩ := wired.takeover e
      exact ⟨host _ own, same ▸ host _ own⟩
    | build =>
      obtain ⟨delegate, own | beyond, _⟩ := wired.build e
      · exact ⟨host _ own, new _ delegate.ge⟩
      · exact ⟨new _ beyond.le, new _ delegate.ge⟩
  rw [exec_settleClass (lt.trans_le first.classes_le) wiring, constructor]
  exact (confined_setConstructor hc hd offered u).trans
    (confined_finishClass hc hf written.1 written.2 _)

/-- What creating a class leaves: the class has its wiring and its constructor, which has the
template of the class, and the class owns template and delegate. -/
structure Created (s t : Store) (c : ClassRef) (b : Option ClassRef) (f : FunctionRef)
    (w : Wiring) : Prop where
  classAt : t.classAt c =
    { s.classAt c with wiring := some w, constructor := some f, constructorNoInit := some f }
  base : w.base = b
  template_lt : w.template.index < t.objects.size
  delegate_lt : w.delegate.index < t.objects.size
  template : t.template f = some w.template
  owner_template : t.owner w.template = some c
  owner_delegate : t.owner w.delegate = some c
  takeover : w.strategy = .takeover → w.delegate = w.template ∧
    (s.classAt c).hostTemplate? s = some w.template ∧ t.parent w.template = s.parent w.template
  build : w.strategy = .build → w.delegate.index = s.objects.size ∧
    ((s.classAt c).hostTemplate? s = some w.template ∨ s.objects.size < w.template.index) ∧
    t.parent w.template = some w.delegate ∧
    t.parent w.delegate = b.bind (fun a => (s.classAt a).delegate?) ∧
    ∀ a, b = some a → (s.classAt a).delegate?.isSome

/-- A class that is created was configured, and had no constructor of its own unless its host
brought one. -/
theorem stages_of_create (lt : c.index < s.classes.size)
    (inside : ∀ o, (s.classAt c).hostTemplate? s = some o → o.index < s.objects.size)
    (h : exec (create d c b offered) s = (.ok (), t)) :
    ∃ u w, exec (configure c b) s = (.ok (), u) ∧ Wired s u c b w ∧
      Confined ⟨Set.univ, ∅, ∅, {c}, ∅⟩ s u ∧
      exec (finishClass c ((s.classAt c).constructor.getD offered) w)
        ((setConstructor d c offered).run u).2 = (.ok (), t) := by
  rw [exec_create] at h
  split at h
  · cases h
  split at h
  · cases h
  obtain ⟨_, u, configured, h⟩ := exec_bind_ok.mp h
  obtain ⟨w, wired⟩ := wired_of_configure lt inside configured
  have first := confined_configure (p := ⟨Set.univ, ∅, ∅, {c}, ∅⟩) (c := c) rfl b (s := s)
    fun _ _ => trivial
  rw [configured] at first
  have wiring : (u.classAt c).wiring = some w := by rw [wired.classAt]
  have constructor : (u.classAt c).constructor = (s.classAt c).constructor := by rw [wired.classAt]
  rw [exec_settleClass (lt.trans_le first.classes_le) wiring, constructor] at h
  exact ⟨u, w, configured, wired, first, h⟩

theorem created_of_create (lt : c.index < s.classes.size)
    (function_lt : ((s.classAt c).constructor.getD offered).index < s.functions.size)
    (inside : ∀ o, (s.classAt c).hostTemplate? s = some o → o.index < s.objects.size)
    (h : exec (create d c b offered) s = (.ok (), t)) :
    ∃ w, Created s t c b ((s.classAt c).constructor.getD offered) w := by
  obtain ⟨u, w, configured, wired, first, h⟩ := stages_of_create lt inside h
  have lt' := lt.trans_le first.classes_le
  obtain ⟨classAt, objects, functions, size⟩ := setConstructor_settled d c offered lt'
  generalize ((setConstructor d c offered).run u).2 = v at h classAt objects functions size
  obtain ⟨final, template, owner_template, owner_delegate, parent⟩ := finishClass_ok (size ▸ lt')
    (functions ▸ function_lt.trans_le first.functions_le) (objects ▸ wired.template_lt)
    (objects ▸ wired.delegate_lt) h
  have parents : ∀ o, t.parent o = u.parent o := fun o => by
    rw [parent, Store.parent, Store.object, objects]
    rfl
  have last := confined_finishClass (p := .all) (c := c)
    (f := (s.classAt c).constructor.getD offered) (w := w) trivial trivial trivial trivial v
  rw [h] at last
  have le : u.objects.size ≤ t.objects.size := objects ▸ last.objects_le
  refine ⟨w, ?_, wired.base, wired.template_lt.trans_le le, wired.delegate_lt.trans_le le,
    template, owner_template, owner_delegate, fun e => ?_, fun e => ?_⟩
  · rw [final, classAt, wired.classAt]
  · obtain ⟨same, own, kept⟩ := wired.takeover e
    exact ⟨same, own, (parents _).trans kept⟩
  · obtain ⟨delegate, own, up, above, finished⟩ := wired.build e
    exact ⟨delegate, own, (parents _).trans up, (parents _).trans above, finished⟩

/-- Creating a class makes no stub of a function, and no function of a stub. -/
theorem isUnresolved_of_create (lt : c.index < s.classes.size)
    (inside : ∀ o, (s.classAt c).hostTemplate? s = some o → o.index < s.objects.size)
    (h : exec (create d c b offered) s = (.ok (), t)) {g : FunctionRef}
    (hg : g.index < s.functions.size) :
    (t.function g).isUnresolved = (s.function g).isUnresolved := by
  obtain ⟨u, w, configured, wired, first, h⟩ := stages_of_create lt inside h
  obtain ⟨_, _, functions, _⟩ :=
    setConstructor_settled d c offered (lt.trans_le first.classes_le)
  rw [isUnresolved_finishClass h, Store.function, functions]
  exact congrArg Function.isUnresolved (first.function g hg (Set.notMem_empty g))

/-- Creating a class says at most that the constructor offered is not used. -/
theorem domain_of_create (lt : c.index < s.classes.size) (domain_lt : d.index < s.domains.size)
    (inside : ∀ o, (s.classAt c).hostTemplate? s = some o → o.index < s.objects.size)
    (h : exec (create d c b offered) s = (.ok (), t)) :
    t.domain d = s.domain d ∨ t.domain d = { s.domain d with
      diagnostics := (s.domain d).diagnostics ++
        [.warning (s.className c) .ignoredConstructor] } := by
  obtain ⟨u, w, configured, wired, first, h⟩ := stages_of_create lt inside h
  have last := confined_finishClass (p := ⟨Set.univ, ∅, Set.univ, Set.univ, ∅⟩) (c := c)
    (f := (s.classAt c).constructor.getD offered) (w := w) trivial trivial trivial trivial
    ((setConstructor d c offered).run u).2
  rw [h] at last
  have same : u.domain d = s.domain d := first.domain d (Set.notMem_empty d)
  rw [last.domain d (Set.notMem_empty d), setConstructor_run]
  cases (u.classAt c).constructor with
  | none => exact .inl same
  | some g =>
    have name : (u.classAt c).name = s.className c := by rw [wired.classAt]; rfl
    refine .inr ((domain_emit (first.domains_eq ▸ domain_lt) _).trans ?_)
    rw [same, name]

end

end ClassLink
