import ClassLink.Proofs.Hierarchy

/-!
# Creating a class that cannot be created

Creating a class checks what it is given before it writes anything. A call that fails on such a
check leaves the store as it was, so it may be made again. One check comes late: a class that has
no constructor takes the one it is offered, and only then does it turn out that the template of
this one is fixed (`Store.Misfit`). The class is then wired and has its constructor, which
constructs something else (`Store.Strands`), and no later call creates it.
-/

namespace ClassLink

variable {s t u : Store} {d : DomainRef} {c : ClassRef} {base : Option ClassRef}
  {offered : FunctionRef}

/-! ### The steps of creating -/

/-- Configuring that fails writes nothing. -/
theorem eq_of_failed_configure {e : Fault} (h : exec (configure c base) s = (.error e, t)) :
    t = s := by
  rw [exec_configure] at h
  split at h
  · exact (Prod.mk.inj h).2.symm
  rcases fixed : fixedTemplate? s (s.classAt c) with e' | (_ | template) <;> rw [fixed] at h
  · exact (Prod.mk.inj h).2.symm
  · rcases found : delegateParent? s (s.classAt c) base with e' | parent <;> rw [found] at h
    · exact (Prod.mk.inj h).2.symm
    · cases h
  · cases h

/-- A class is configured if its constructor has a template and its base is finalized. -/
theorem exec_configure_ok (unwired : (s.classAt c).wiring = none)
    (host : ∀ f, (s.classAt c).constructor = some f → (s.template f).isSome)
    (finalized : ∀ b, base = some b → (s.classAt b).delegate?.isSome) :
    ∃ u, exec (configure c base) s = (.ok (), u) := by
  have fixed : ∃ template, fixedTemplate? s (s.classAt c) = .ok template := by
    unfold fixedTemplate?
    cases own : (s.classAt c).constructor with
    | none => exact ⟨_, rfl⟩
    | some f =>
      obtain ⟨o, ho⟩ := Option.isSome_iff_exists.mp (host f own)
      simp only [show (s.function f).template = some o from ho]
      split <;> exact ⟨_, rfl⟩
  have found : ∃ parent, delegateParent? s (s.classAt c) base = .ok parent := by
    unfold delegateParent?
    cases base with
    | none => exact ⟨_, rfl⟩
    | some b =>
      obtain ⟨o, ho⟩ := Option.isSome_iff_exists.mp (finalized b rfl)
      simp only [ho]
      exact ⟨_, rfl⟩
  obtain ⟨_ | template, fixed⟩ := fixed <;> rw [exec_configure, unwired, fixed, if_neg (by simp)]
  · obtain ⟨parent, found⟩ := found
    rw [found]
    exact ⟨_, rfl⟩
  · exact ⟨_, rfl⟩

/-- What configuring a class leaves: the class is wired, and no other class and no function is
written. -/
structure Configured (s u : Store) (c : ClassRef) (base : Option ClassRef) (w : Wiring) : Prop where
  unwired : (s.classAt c).wiring = none
  base_eq : w.base = base
  classAt : u.classAt c = { s.classAt c with wiring := some w }
  others : ∀ k, k ≠ c → u.classAt k = s.classAt k
  functions : u.functions = s.functions
  size : u.classes.size = s.classes.size
  takeover : w.strategy = .takeover → fixedTemplate? s (s.classAt c) = .ok (some w.template)
  build : w.strategy = .build → fixedTemplate? s (s.classAt c) = .ok none ∧
    ∀ b, base = some b → (s.classAt b).delegate?.isSome

theorem buildTemplates_keeps (k : Class) (base : Option ClassRef) (parent : Option ObjectRef)
    (s : Store) :
    ((buildTemplates k base parent).run s).1.base = base ∧
      ((buildTemplates k base parent).run s).1.strategy = .build ∧
      ((buildTemplates k base parent).run s).2.classes = s.classes ∧
      ((buildTemplates k base parent).run s).2.functions = s.functions := by
  rw [buildTemplates_run]
  cases k.hostTemplate? s <;> exact ⟨rfl, rfl, rfl, rfl⟩

theorem configured_of_configure (lt : c.index < s.classes.size)
    (h : exec (configure c base) s = (.ok (), u)) : ∃ w, Configured s u c base w := by
  rw [exec_configure] at h
  split at h
  · cases h
  rename_i unwired
  have unwired : (s.classAt c).wiring = none := by simpa using unwired
  -- wiring a class writes that class alone
  have written : ∀ (v : Store) (w : Wiring), v.classes = s.classes →
      (v.modifyClass c fun x => { x with wiring := some w }).classAt c =
          { s.classAt c with wiring := some w } ∧
        ∀ k, k ≠ c → (v.modifyClass c fun x => { x with wiring := some w }).classAt k =
          s.classAt k := by
    intro v w classes
    have same : ∀ k, v.classAt k = s.classAt k := fun k => by rw [Store.classAt, classes]; rfl
    refine ⟨?_, fun k ne => ?_⟩
    · rw [Store.classAt_modifyClass, if_pos ⟨rfl, classes ▸ lt⟩, same]
    · rw [Store.classAt_modifyClass, if_neg fun e => ne e.1.symm, same]
  rcases fixed : fixedTemplate? s (s.classAt c) with e | (_ | template) <;> rw [fixed] at h
  · cases h
  · rcases found : delegateParent? s (s.classAt c) base with e | parent <;> rw [found] at h
    · cases h
    obtain ⟨base_eq, strategy, classes, functions⟩ :=
      buildTemplates_keeps (s.classAt c) base parent s
    obtain ⟨classAt, others⟩ :=
      written _ ((buildTemplates (s.classAt c) base parent).run s).1 classes
    obtain rfl := (Prod.mk.inj h).2
    refine ⟨_, unwired, base_eq, classAt, others, functions, ?_, fun takeover => ?_,
      fun _ => ⟨fixed, (delegateParent?_ok found).2⟩⟩
    · rw [← classes]
      exact Array.size_modify ..
    · cases strategy.symm.trans takeover
  · obtain ⟨classAt, others⟩ := written s ⟨base, .takeover, template, template⟩ rfl
    obtain rfl := (Prod.mk.inj h).2
    exact ⟨_, unwired, rfl, classAt, others, rfl, Array.size_modify .., fun _ => fixed,
      fun build => by cases build⟩

/-- Configuring writes nothing and fails, or wires the class. -/
theorem configure_cases (inside : c.index < s.classes.size) (base : Option ClassRef) :
    (∃ e, exec (configure c base) s = (.error e, s)) ∨
      ∃ u w, exec (configure c base) s = (.ok (), u) ∧ Configured s u c base w := by
  rcases run : exec (configure c base) s with ⟨e | _, u⟩
  · rw [eq_of_failed_configure run]
    exact .inl ⟨e, rfl⟩
  · obtain ⟨w, configured⟩ := configured_of_configure inside run
    exact .inr ⟨u, w, rfl, configured⟩

/-- Creating writes nothing and fails, or configures the class. -/
theorem create_cases (inside : c.index < s.classes.size) (d : DomainRef) (base : Option ClassRef)
    (offered : FunctionRef) :
    (∃ e, exec (create d c base offered) s = (.error e, s)) ∨
      ∃ u w, (s.classAt c).constructorNoInit = none ∧ exec (configure c base) s = (.ok (), u) ∧
        Configured s u c base w := by
  by_cases finished : (s.classAt c).constructorNoInit.isSome
  · rw [exec_create, if_pos finished]
    exact .inl ⟨_, rfl⟩
  by_cases wired : (s.classAt c).wiring.isSome
  · rw [exec_create, if_neg finished, if_pos wired]
    exact .inl ⟨_, rfl⟩
  rcases configure_cases inside base with ⟨e, run⟩ | ⟨u, w, configured⟩
  · rw [exec_create, if_neg finished, if_neg wired, exec_bind, run]
    exact .inl ⟨e, rfl⟩
  · exact .inr ⟨u, w, by simpa using finished, configured⟩

/-- The template of a function may be set to one that it has, or to any if it is not fixed. -/
theorem exec_setTemplate_ok {f : FunctionRef} {o : ObjectRef}
    (h : (s.function f).templateWritable = true ∨ s.template f = some o) :
    ∃ t, exec (setTemplate f o) s = (.ok (), t) := by
  rw [exec_setTemplate]
  split
  · exact ⟨_, rfl⟩
  · rename_i fixed
    rw [if_pos (h.resolve_left fixed)]
    exact ⟨s, rfl⟩

/-- The store in which the template of the constructor is set when a class is finished. -/
def Store.settled (s : Store) (c : ClassRef) (f : FunctionRef) : Store :=
  (s.modifyClass c fun x => { x with constructorNoInit := some f }).setFunctionClass f c

/-- One class and its constructor may be written. -/
def Footprint.constructed (c : ClassRef) (f : FunctionRef) : Footprint := ⟨∅, ∅, {f}, {c}, ∅⟩

theorem Store.confined_settled (s : Store) (c : ClassRef) (f : FunctionRef) :
    Confined (.constructed c f) s (s.settled c f) :=
  (confined_modifyClass rfl fun x => { x with constructorNoInit := some f }).trans
    (confined_setFunctionClass rfl c)

theorem Store.classAt_settled (f : FunctionRef) (lt : c.index < s.classes.size) :
    (s.settled c f).classAt c = { s.classAt c with constructorNoInit := some f } :=
  (Store.classAt_modifyClass ..).trans (if_pos ⟨rfl, lt⟩)

theorem Store.function_settled (s : Store) (c : ClassRef) (f : FunctionRef) :
    ((s.settled c f).function f).templateWritable = (s.function f).templateWritable ∧
      (s.settled c f).template f = s.template f ∧
      ((s.settled c f).function f).name = (s.function f).name := by
  unfold settled
  simp only [Store.setFunctionClass, Store.template, Store.function_modifyFunction]
  split <;> exact ⟨rfl, rfl, rfl⟩

theorem exec_finishClass (c : ClassRef) (f : FunctionRef) (w : Wiring) (s : Store) :
    exec (finishClass c f w) s =
      match exec (setTemplate f w.template) (s.settled c f) with
      | (.ok _, t) => (.ok (), (t.setOwner w.template c).setOwner w.delegate c)
      | (.error e, t) => (.error e, t) := by
  unfold finishClass Store.settled
  rw [exec_modify_bind, exec_modify_bind, exec_bind]
  rcases exec (setTemplate f w.template) _ with ⟨_ | _, _⟩ <;> rfl

/-- A class is finished unless its constructor has another template, which is fixed. -/
theorem finishClass_ok_of_template {f : FunctionRef} {w : Wiring}
    (h : (s.function f).templateWritable = true ∨ s.template f = some w.template) :
    ∃ t, exec (finishClass c f w) s = (.ok (), t) := by
  obtain ⟨writable, template, _⟩ := s.function_settled c f
  rw [← writable, ← template] at h
  obtain ⟨t, ok⟩ := exec_setTemplate_ok h
  rw [exec_finishClass, ok]
  exact ⟨_, rfl⟩

/-- A class is not finished if its constructor has another template, which is fixed. -/
theorem finishClass_error {f : FunctionRef} {w : Wiring}
    (fixed : (s.function f).templateWritable = false) (other : s.template f ≠ some w.template) :
    exec (finishClass c f w) s =
      (.error (.breach (.templateFixed (s.function f).name)), s.settled c f) := by
  obtain ⟨writable, template, name⟩ := s.function_settled c f
  rw [exec_finishClass, exec_setTemplate, writable, template, name, fixed,
    if_neg Bool.false_ne_true, if_neg other]

/-- Once it is configured, a class is settled on its own constructor or on the one it is offered,
and finished. -/
theorem exec_create_of_configured {w : Wiring} (lt : c.index < s.classes.size)
    (unset : (s.classAt c).constructorNoInit = none)
    (run : exec (configure c base) s = (.ok (), u)) (h : Configured s u c base w) :
    exec (create d c base offered) s =
      exec (finishClass c ((s.classAt c).constructor.getD offered) w)
        ((setConstructor d c offered).run u).2 := by
  have wiring : (u.classAt c).wiring = some w := by rw [h.classAt]
  have constructor : (u.classAt c).constructor = (s.classAt c).constructor := by rw [h.classAt]
  rw [exec_create, unset, h.unwired, if_neg (by simp), if_neg (by simp), exec_bind, run]
  exact (exec_settleClass (h.size ▸ lt) wiring).trans (by rw [constructor])

/-- A class that is configured is created, unless it has no constructor and is offered one whose
template is fixed. -/
theorem create_ok_of_configured {w : Wiring} (lt : c.index < s.classes.size)
    (unset : (s.classAt c).constructorNoInit = none)
    (run : exec (configure c base) s = (.ok (), u)) (h : Configured s u c base w)
    (fits : (s.classAt c).constructor = none → (s.function offered).templateWritable = true) :
    ∃ t, exec (create d c base offered) s = (.ok (), t) := by
  rw [exec_create_of_configured lt unset run h]
  obtain ⟨_, _, functions, _⟩ := setConstructor_settled d c offered (h.size ▸ lt)
  generalize ((setConstructor d c offered).run u).2 = v at functions
  have same : ∀ f, v.function f = s.function f := fun f => by
    rw [Store.function, functions, h.functions]
    rfl
  refine finishClass_ok_of_template ?_
  rw [Store.template, same]
  cases own : (s.classAt c).constructor with
  | none => exact .inl (fits own)
  | some f =>
    cases e : w.strategy with
    | takeover =>
      have template := hostTemplate?_of_fixed (h.takeover e)
      rw [Class.hostTemplate?, own] at template
      exact .inr template
    | build =>
      have free := (h.build e).1
      simp only [fixedTemplate?, own] at free
      split at free
      · exact .inl ‹_›
      · split at free <;> cases free

/-! ### Calls that fail -/

/-- A class that could be created has no constructor, and is offered one whose template is fixed. -/
structure Store.Misfit (s : Store) (c : ClassRef) (base : Option ClassRef) (offered : FunctionRef) :
    Prop where
  unset : (s.classAt c).constructorNoInit = none
  unwired : (s.classAt c).wiring = none
  finalized : ∀ b, base = some b → (s.classAt b).delegate?.isSome
  constructor : (s.classAt c).constructor = none
  fixed : (s.function offered).templateWritable = false

/-- A class is wired to a template and a delegate made for it, and has been given its constructor. -/
structure Store.Equips (s t : Store) (c : ClassRef) (base : Option ClassRef) (f : FunctionRef)
    (w : Wiring) : Prop where
  confined : Confined (.constructed c f) s t
  functions : t.functions = s.functions
  inside : c.index < t.classes.size
  classAt : t.classAt c = { s.classAt c with wiring := some w, constructor := some f }
  made : w.base = base ∧ w.strategy = .build ∧ s.objects.size ≤ w.delegate.index ∧
    s.objects.size ≤ w.template.index

/-- A class is wired to a template and a delegate made for it, and is finished with the constructor
it was offered, which keeps its own template. Nothing else is written. -/
structure Store.Strands (s t : Store) (c : ClassRef) (base : Option ClassRef)
    (offered : FunctionRef) : Prop where
  confined : Confined (.constructed c offered) s t
  classAt : ∃ w, w.base = base ∧ w.strategy = .build ∧ s.objects.size ≤ w.delegate.index ∧
    s.objects.size ≤ w.template.index ∧ s.template offered ≠ some w.template ∧
    t.classAt c = { s.classAt c with
      wiring := some w, constructor := some offered, constructorNoInit := some offered }
  function : t.function offered = { s.function offered with ofClass := some c }

/-- A misfit is found out when everything but the template of the constructor is written. -/
theorem Store.Misfit.equips (h : s.Misfit c base offered) (inside : c.index < s.classes.size)
    (d : DomainRef) : ∃ t w, s.Equips t c base offered w ∧
      exec (create d c base offered) s = exec (finishClass c offered w) t := by
  have bare : ∀ o, (s.classAt c).hostTemplate? s ≠ some o := fun o => by
    rw [Class.hostTemplate?, h.constructor]
    simp
  obtain ⟨u, run⟩ := exec_configure_ok h.unwired
    (fun f hf => by rw [h.constructor] at hf; cases hf) h.finalized
  obtain ⟨w, configured⟩ := configured_of_configure inside run
  have first := confined_configure (p := .constructed c offered) (c := c) rfl base (s := s)
    fun o ho => absurd ho (bare o)
  rw [run] at first
  have constructor : (u.classAt c).constructor = none := by
    rw [configured.classAt]
    exact h.constructor
  have inside' : c.index < u.classes.size := configured.size ▸ inside
  have written : Confined (.constructed c offered) u
      (u.modifyClass c fun x => { x with constructor := some offered }) :=
    confined_modifyClass rfl _
  refine ⟨_, w, ⟨first.trans written, configured.functions, inside'.trans_le written.classes_le,
    ?_, configured.base_eq, ?_⟩, ?_⟩
  · rw [Store.classAt_modifyClass, if_pos ⟨rfl, inside'⟩, configured.classAt]
  · obtain ⟨w', wired⟩ := wired_of_configure inside (fun o ho => absurd ho (bare o)) run
    obtain rfl : w' = w :=
      Option.some.inj (congrArg Class.wiring (wired.classAt.symm.trans configured.classAt))
    cases strategy : w'.strategy with
    | takeover => exact absurd (wired.takeover strategy).2.1 (bare _)
    | build =>
      obtain ⟨delegate, host | template, _⟩ := wired.build strategy
      · exact absurd host (bare _)
      · exact ⟨rfl, delegate.ge, template.le⟩
  · rw [exec_create_of_configured inside h.unset run configured, setConstructor_run, constructor,
      h.constructor, Option.getD_none]

namespace Store.Equips

variable {f : FunctionRef} {w : Wiring}

theorem function (h : s.Equips t c base f w) (g : FunctionRef) : t.function g = s.function g := by
  rw [Store.function, h.functions]
  rfl

/-- If the class is not finished then, it is because of the template. -/
theorem failed (h : s.Equips t c base f w) (fixed : (s.function f).templateWritable = false)
    {e : Fault} (failed : exec (finishClass c f w) t = (.error e, u)) :
    s.template f ≠ some w.template ∧ e = .breach (.templateFixed (s.function f).name) ∧
      u = t.settled c f := by
  have other : t.template f ≠ some w.template := by
    intro same
    obtain ⟨_, ok⟩ := finishClass_ok_of_template (c := c) (.inr same)
    cases ok.symm.trans failed
  rw [finishClass_error (h.function f ▸ fixed) other, h.function] at failed
  obtain ⟨fault, rfl⟩ := Prod.mk.inj failed
  rw [Store.template, h.function] at other
  exact ⟨other, (Except.error.inj fault).symm, rfl⟩

theorem strands (h : s.Equips t c base f w) (inside : f.index < s.functions.size)
    (other : s.template f ≠ some w.template) : s.Strands (t.settled c f) c base f := by
  obtain ⟨base_eq, build, delegate, template⟩ := h.made
  refine ⟨h.confined.trans (t.confined_settled c f), ⟨w, base_eq, build, delegate, template, other,
    ?_⟩, ?_⟩
  · rw [Store.classAt_settled f h.inside, h.classAt]
  · refine (Store.function_modifyFunction ..).trans ?_
    rw [if_pos ⟨rfl, h.functions ▸ inside⟩]
    exact congrArg (fun x : Function => { x with ofClass := some c }) (h.function f)

end Store.Equips

/-- A class that is configured, but not created, was no fit for the constructor it was offered. -/
theorem Configured.misfit {w : Wiring} {e : Fault} (lt : c.index < s.classes.size)
    (unset : (s.classAt c).constructorNoInit = none)
    (run : exec (configure c base) s = (.ok (), u)) (h : Configured s u c base w)
    (failed : exec (create d c base offered) s = (.error e, t)) : s.Misfit c base offered := by
  by_contra fit
  have fits : (s.classAt c).constructor = none → (s.function offered).templateWritable = true := by
    intro constructor
    by_contra fixed
    refine fit ⟨unset, h.unwired, ?_, constructor, by simpa using fixed⟩
    cases e : w.strategy with
    | takeover =>
      have template := h.takeover e
      rw [fixedTemplate?, constructor] at template
      cases template
    | build => exact (h.build e).2
  obtain ⟨_, ok⟩ : ∃ v, exec (create d c base offered) s = (.ok (), v) :=
    create_ok_of_configured lt unset run h fits
  cases ok.symm.trans failed

/-- A call that fails, but not over a misfit, writes nothing. -/
theorem eq_of_failed_create {e : Fault} (inside : c.index < s.classes.size)
    (fit : ¬s.Misfit c base offered)
    (failed : exec (create d c base offered) s = (.error e, t)) : t = s := by
  rcases create_cases inside d base offered with ⟨_, run⟩ | ⟨u, w, unset, run, configured⟩
  · exact (Prod.mk.inj (failed.symm.trans run)).2
  · exact absurd (configured.misfit inside unset run failed) fit

/-- A class that is stranded is not created by any later call. -/
theorem Store.Strands.exec_create (h : s.Strands t c base offered) (d : DomainRef)
    (base' : Option ClassRef) (f : FunctionRef) :
    exec (create d c base' f) t =
      (.error (.breach (.constructorAlreadySet (s.className c))), t) := by
  obtain ⟨w, _, _, _, _, _, classAt⟩ := h.classAt
  have finished : (t.classAt c).constructorNoInit.isSome := by rw [classAt]; rfl
  have name : (t.classAt c).name = s.className c := by rw [classAt]; rfl
  rw [ClassLink.exec_create, if_pos finished, name]

/-- **Creating that fails.** The store is left as it was and the call may be made again, except for
a misfit. This one strands the class: it is wired and finished with a constructor of another
template, so no later call creates it. -/
theorem unchanged_or_stranded_of_failed_create {e : Fault} (inside : c.index < s.classes.size)
    (offered_inside : offered.index < s.functions.size)
    (failed : exec (create d c base offered) s = (.error e, t)) :
    (¬s.Misfit c base offered → t = s) ∧
      (s.Misfit c base offered →
        e = .breach (.templateFixed (s.function offered).name) ∧ s.Strands t c base offered ∧
        ∀ d' base' f, exec (create d' c base' f) t =
          (.error (.breach (.constructorAlreadySet (s.className c))), t)) := by
  refine ⟨fun fit => eq_of_failed_create inside fit failed, fun misfit => ?_⟩
  obtain ⟨u, w, equips, run⟩ := misfit.equips inside d
  obtain ⟨other, fault, rfl⟩ := equips.failed misfit.fixed (run.symm.trans failed)
  have strands := equips.strands offered_inside other
  exact ⟨fault, strands, strands.exec_create⟩

namespace Sample

/-- A domain and a host constructor whose template is fixed. -/
def furnished : Store :=
  (exec (do
    let template ← newObject none
    let body := .script (.constant .undefined)
    newFunction (.hostConstructor "HostCtor" 0 body none template false) : Run FunctionRef) opened).2

/-- A class of bytecode is allocated. -/
def offering : Store := ((allocateBytecode (.bare "Plain")).run furnished).2

/-- The class is offered the constructor. -/
def createOffering : Run Unit := create ⟨0⟩ ⟨0⟩ none ⟨0⟩

theorem misfit_offering : offering.Misfit ⟨0⟩ none ⟨0⟩ :=
  ⟨by decide +kernel, by decide +kernel, by simp, by decide +kernel, by decide +kernel⟩

theorem exec_createOffering : ∃ e t, exec createOffering offering = (.error e, t) :=
  ⟨_, _, rfl⟩

end Sample

/-- The class is stranded. -/
theorem stranded_offering : ∃ t,
    exec Sample.createOffering Sample.offering =
      (.error (.breach (.templateFixed "HostCtor")), t) ∧
    Sample.offering.Strands t ⟨0⟩ none ⟨0⟩ := by
  obtain ⟨e, t, failed⟩ := Sample.exec_createOffering
  obtain ⟨rfl, strands, _⟩ := (unchanged_or_stranded_of_failed_create (by decide +kernel)
    (by decide +kernel) failed).2 Sample.misfit_offering
  exact ⟨t, failed, strands⟩

/-- A call to create that fails may wire the class, and give it a constructor. -/
theorem configured_by_failed_create :
    ∃ e t, exec Sample.createOffering Sample.offering = (.error e, t) ∧
      (Sample.offering.classAt ⟨0⟩).strategy? = none ∧
      (t.classAt ⟨0⟩).strategy? = some .build ∧
      (Sample.offering.classAt ⟨0⟩).constructorNoInit = none ∧
      (t.classAt ⟨0⟩).constructorNoInit = some ⟨0⟩ ∧
      (Sample.offering.function ⟨0⟩).ofClass = none ∧
      (t.function ⟨0⟩).ofClass = some ⟨0⟩ :=
  ⟨_, _, rfl, by decide +kernel, by decide +kernel, by decide +kernel, by decide +kernel,
    by decide +kernel, by decide +kernel⟩

end ClassLink
