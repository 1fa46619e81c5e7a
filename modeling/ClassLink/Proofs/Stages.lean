import ClassLink.Proofs.Building
import ClassLink.Proofs.Construction
import ClassLink.Proofs.Verification

/-!
# The stages of linking

Linking is cut into its stages. A descriptor that is not valid, or a host class that is not
registered, ends it before anything is written. The allocated class is then prepared, created
and checked, which may fail; its members are bound and it is entered in the directory, which may
not. Whatever fails, only places that are new have been written, and the diagnostics and counts
of the domain; for this the synthesizer does not matter, as long as it makes new functions
(`linkBy`).
-/

namespace ClassLink

/-! ### The stages -/

/-- Give an allocated class its scope and its holders, and make the constructor it is offered. -/
def prepareBy (make : Synthesis) (descriptor : ClassDescriptor) (base : Option ClassRef)
    (scope : Scope) (c : ClassRef) : Action FunctionRef := do
  let s ← get
  log (.debug LogRecord.linkTarget
    ("linking " ++ descriptor.display ++ " (base: " ++ (base.map s.className).getD "none" ++ ")"))
  modify (·.modifyClass c fun x => { x with scope := some (scope.push (.class c)) })
  let constructor ← make descriptor.instanceInit (scope.push (.class c)) false
  modify fun s => s.modifyClass c fun x =>
    { x with
      staticHolders := staticHoldersOf x
      instanceHolders := instanceHoldersOf s x }
  return constructor

/-- A class is prepared with the synthesizer of its domain. -/
def prepareClass (d : DomainRef) : ClassDescriptor → Option ClassRef → Scope → ClassRef →
    Action FunctionRef :=
  prepareBy (synthesize d)

/-- Verify a class if its domain asks for it. -/
def checkClass (d : DomainRef) (c : ClassRef) : Run Unit := do
  if ((← get).domain d).options.verify then
    let report ← verifyClass d c
    modify (·.modifyClass c fun x => { x with verification := some report })

/-- Bind the members of a class and install them. -/
def bindMembers (d : DomainRef) (c : ClassRef) (base : Option ClassRef) (inner : Scope) :
    Action Unit := do
  bindStatics d c inner
  let bindings ← bindInstances d c base inner
  shareClassMembers d c bindings

/-- Enter a class in the directory, and log it if the domain asks for it. -/
def announceClass (d : DomainRef) (c : ClassRef) : Action Unit := do
  registerClass d c
  let s ← get
  if (s.domain d).options.trace then
    log ⟨.trace, LogRecord.linkTarget, .trace (s.trace c)⟩

/-- The last stages cannot fail. -/
theorem exec_finish (d : DomainRef) (c : ClassRef) (base : Option ClassRef) (inner : Scope)
    (s : Store) :
    exec (do
        bindStatics d c inner
        let bindings ← (bindInstances d c base inner : Run Bindings)
        shareClassMembers d c bindings
        registerClass d c
        let s ← get
        if (s.domain d).options.trace then
          log ⟨.trace, LogRecord.linkTarget, .trace (s.trace c)⟩
        return c) s =
      (.ok c, ((announceClass d c).run ((bindMembers d c base inner).run s).2).2) := by
  rw [exec_lift_bind, exec_lift_bind, exec_lift_bind, exec_lift_bind, exec_get_bind]
  unfold bindMembers announceClass
  rw [run_bind, run_bind, run_bind, run_bind, get_run]
  generalize ((registerClass d c).run _).2 = t
  cases (t.domain d).options.trace <;> rfl

/-- Linking is these stages in order. -/
theorem exec_link (d : DomainRef) (descriptor : ClassDescriptor) (base : Option ClassRef)
    (scope : Scope) (s : Store) :
    exec (link d descriptor base scope) s =
      match descriptor.validate with
      | .error e => (.error (.descriptor e), s)
      | .ok () => exec (do
          let c ← allocateFor descriptor
          let offered ← (prepareClass d descriptor base scope c : Run FunctionRef)
          create d c base offered
          checkClass d c
          bindMembers d c base (scope.push (.class c))
          announceClass d c
          return c) s := by
  unfold link prepareClass prepareBy checkClass
  cases descriptor.validate with
  | error e => rfl
  | ok _ =>
    refine (exec_bind ..).trans ((exec_bind ..).trans ?_).symm
    rcases exec (allocateFor descriptor) s with ⟨_ | c, u⟩
    · rfl
    simp only [exec_lift_bind, exec_get_bind, exec_modify_bind, run_bind, get_run, modify_run,
      log_run, pure_run]
    refine (exec_bind ..).trans ((exec_bind ..).trans ?_).symm
    split
    · rename_i t _
      rw [exec_get_bind, exec_bind, exec_get_bind]
      split
      · rw [exec_bind, exec_bind]
        rcases exec (verifyClass d c) t with ⟨_ | report, w⟩
        · rfl
        simp only [exec_modify, exec_modify_bind]
        refine (exec_finish ..).trans ?_
        rw [exec_lift_bind, exec_lift_bind, exec_pure]
      · refine (exec_finish ..).trans ?_
        simp only [exec_pure]
        rw [exec_lift_bind, exec_lift_bind, exec_pure]
    · rfl

/-- Linking with any synthesizer; `members` is what follows once the class is checked. -/
def linkBy (make : Synthesis) (members : ClassRef → Action Unit) (d : DomainRef)
    (descriptor : ClassDescriptor) (base : Option ClassRef) (scope : Scope) : Run ClassRef := do
  if let .error e := descriptor.validate then throw (.descriptor e)
  let c ← allocateFor descriptor
  let offered ← prepareBy make descriptor base scope c
  create d c base offered
  checkClass d c
  members c
  return c

theorem exec_linkBy (make : Synthesis) (members : ClassRef → Action Unit) (d : DomainRef)
    (descriptor : ClassDescriptor) (base : Option ClassRef) (scope : Scope) (s : Store) :
    exec (linkBy make members d descriptor base scope) s =
      match descriptor.validate with
      | .error e => (.error (.descriptor e), s)
      | .ok () => exec (do
          let c ← allocateFor descriptor
          let offered ← (prepareBy make descriptor base scope c : Run FunctionRef)
          create d c base offered
          checkClass d c
          members c
          return c) s := by
  unfold linkBy
  cases descriptor.validate <;> rfl

/-- Linking is linking with the synthesizer of the domain. -/
theorem exec_link_eq_linkBy (d : DomainRef) (descriptor : ClassDescriptor) (base : Option ClassRef)
    (scope : Scope) (s : Store) :
    exec (link d descriptor base scope) s =
      exec (linkBy (synthesize d)
        (fun c => do
          bindMembers d c base (scope.push (.class c))
          announceClass d c) d descriptor base scope) s := by
  rw [exec_link, exec_linkBy]
  split
  · rfl
  refine exec_bind_congr (fun c u => ?_) s
  refine exec_bind_congr (fun offered u => ?_) u
  refine exec_bind_congr (fun _ u => ?_) u
  refine exec_bind_congr (fun _ u => ?_) u
  rw [exec_lift_bind, exec_lift_bind, exec_lift_bind, run_bind]

/-! ### Preparing -/

section
variable {d : DomainRef} {descriptor : ClassDescriptor} {base : Option ClassRef} {scope : Scope}
  {s t : Store} {c : ClassRef}

/-- An allocated class is offered a constructor that is new and may be given another template. -/
structure Offered (descriptor : ClassDescriptor) (s t : Store) (c : ClassRef)
    (offered : FunctionRef) : Prop extends Allocated descriptor s t c where
  offered_le : s.functions.size ≤ offered.index
  offered_lt : offered.index < t.functions.size
  offered_writable : (t.function offered).templateWritable = true

/-- A class has its holders and is offered a constructor; as before it is not wired. -/
structure Prepared (descriptor : ClassDescriptor) (scope : Scope) (s t : Store) (c : ClassRef)
    (offered : FunctionRef) : Prop extends Offered descriptor s t c offered where
  scope : (t.classAt c).scope = some (scope.push (.class c))
  staticHolders : (t.classAt c).staticHolders = staticHoldersOf (t.classAt c)
  instanceHolders : (t.classAt c).instanceHolders = instanceHoldersOf t (t.classAt c)
  offered_plain : (t.function offered).isUnresolved = false

/-- The class with the objects in which its native members are looked up. -/
def Class.withHolders (k : Class) (s : Store) : Class :=
  { k with staticHolders := staticHoldersOf k, instanceHolders := instanceHoldersOf s k }

/-- The class with the scope of its body. -/
def Class.inside (k : Class) (inner : Scope) : Class := { k with scope := some inner }

theorem prepareBy_run (make : Synthesis) (descriptor : ClassDescriptor) (base : Option ClassRef)
    (scope : Scope) (c : ClassRef) (s : Store) :
    ∃ r, (prepareBy make descriptor base scope c).run s =
      let made := (make descriptor.instanceInit (scope.push (.class c)) false).run
        ((s.record r).modifyClass c (·.inside (scope.push (.class c))))
      (made.1, made.2.modifyClass c (·.withHolders made.2)) := by
  unfold prepareBy
  simp only [run_bind, get_run, log_run, modify_run, pure_run]
  exact ⟨_, rfl⟩

theorem prepareClass_run (d : DomainRef) (descriptor : ClassDescriptor) (base : Option ClassRef)
    (scope : Scope) (c : ClassRef) (s : Store) :
    ∃ r g, (prepareClass d descriptor base scope c).run s = (⟨s.functions.size⟩,
      let u := ((newFunction (.bytecode descriptor.instanceInit (scope.push (.class c)) false g)).run
        ((s.record r).modifyClass c (·.inside (scope.push (.class c))))).2
      u.modifyClass c (·.withHolders u)) := by
  obtain ⟨r, run⟩ := prepareBy_run (synthesize d) descriptor base scope c s
  exact ⟨r, _, run⟩

/-- The functions made are new, their templates may be replaced, and nothing else is written. -/
structure Synthesis.MakesNew (make : Synthesis) : Prop where
  confined : ∀ m inner check s, Confined .none s ((make m inner check).run s).2
  le : ∀ m inner check s, s.functions.size ≤ ((make m inner check).run s).1.index
  lt : ∀ m inner check s,
    ((make m inner check).run s).1.index < ((make m inner check).run s).2.functions.size
  writable : ∀ m inner check s, (((make m inner check).run s).2.function
    ((make m inner check).run s).1).templateWritable = true

/-- The synthesizer of a domain makes new functions. -/
theorem makesNew_synthesize (d : DomainRef) : Synthesis.MakesNew (synthesize d) where
  confined _ _ _ _ := confined_newFunction ..
  le _ _ _ _ := le_rfl
  lt _ _ _ _ := lt_of_lt_of_eq (Nat.lt_succ_self _) (newFunction_size ..).symm
  writable _ _ _ _ := congrArg Function.templateWritable (newFunction_function ..)

theorem offered_of_allocated {make : Synthesis} (new : make.MakesNew) (base : Option ClassRef)
    (scope : Scope) (h : Allocated descriptor s t c) :
    Offered descriptor s ((prepareBy make descriptor base scope c).run t).2 c
      ((prepareBy make descriptor base scope c).run t).1 := by
  obtain ⟨r, run⟩ := prepareBy_run make descriptor base scope c t
  rw [run]
  have first := (h.later (confined_record .none t r)).modifyClass
    (g := (·.inside (scope.push (.class c)))) fun _ => rfl
  have second := first.later (new.confined descriptor.instanceInit (scope.push (.class c)) false _)
  exact ⟨second.modifyClass fun _ => rfl, first.confined.functions_le.trans (new.le ..),
    new.lt .., new.writable ..⟩

section
variable (d : DomainRef) (descriptor : ClassDescriptor) (base : Option ClassRef) (scope : Scope)

/-- Preparing a class writes the class alone. -/
theorem confined_prepareClass {p : Footprint} (hc : c ∈ p.classes) :
    Confined p t ((prepareClass d descriptor base scope c).run t).2 := by
  obtain ⟨r, g, run⟩ := prepareClass_run d descriptor base scope c t
  rw [run]
  have entered := (confined_record p t r).trans
    (confined_modifyClass hc (·.inside (scope.push (.class c))))
  exact (entered.trans (confined_newFunction p _ _)).trans (confined_modifyClass hc _)

/-- Preparing a class fills in its scope and its holders. -/
theorem classAt_prepareClass (inside : c.index < t.classes.size) :
    ((prepareClass d descriptor base scope c).run t).2.classAt c =
      ((t.classAt c).inside (scope.push (.class c))).withHolders
        ((prepareClass d descriptor base scope c).run t).2 := by
  obtain ⟨r, g, run⟩ := prepareClass_run d descriptor base scope c t
  have entered : ((t.record r).modifyClass c (·.inside (scope.push (.class c)))).classAt c =
      (t.classAt c).inside (scope.push (.class c)) :=
    (Store.classAt_modifyClass ..).trans (if_pos ⟨rfl, inside⟩)
  have kept : c.index <
      ((t.record r).modifyClass c (·.inside (scope.push (.class c)))).classes.size :=
    inside.trans_le (confined_modifyClass (p := .all) trivial _).classes_le
  rw [run, ← entered]
  exact (Store.classAt_modifyClass ..).trans (if_pos ⟨rfl, kept⟩)

end

theorem prepared_of_allocated (h : Allocated descriptor s t c) :
    Prepared descriptor scope s ((prepareClass d descriptor base scope c).run t).2 c
      ((prepareClass d descriptor base scope c).run t).1 := by
  have class_ := classAt_prepareClass d descriptor base scope h.lt
  have offered := offered_of_allocated (makesNew_synthesize d) base scope h
  refine ⟨offered, ?_, ?_, ?_, ?_⟩
  · rw [class_]
    rfl
  · rw [class_]
    rfl
  · rw [class_]
    rfl
  · obtain ⟨r, g, run⟩ := prepareClass_run d descriptor base scope c t
    rw [run]
    exact congrArg Function.isUnresolved (newFunction_function ..)

/-! ### Checking -/

/-- Checking does nothing unless the domain asks for it. Then strict linking refuses a class with
structural problems, and any other class gets its report. -/
theorem exec_checkClass (c : ClassRef) (lt : d.index < s.domains.size) :
    ((s.domain d).options.verify = false ∧ exec (checkClass d c) s = (.ok (), s)) ∨
      ((s.domain d).options.verify = true ∧ (s.domain d).options.strict = true ∧
        ∃ p ps, s.structuralProblems c = p :: ps ∧
          exec (checkClass d c) s = (.error (.breach (.structural (s.className c) p)), s)) ∨
      (s.domain d).options.verify = true ∧
        ((s.domain d).options.strict = true → s.structuralProblems c = []) ∧
        ∃ u, Emits d (s.findingsOf c) s u ∧ exec (checkClass d c) s =
          (.ok (), u.modifyClass c fun x => { x with verification := some (s.reportOf c) }) := by
  unfold checkClass
  rw [exec_get_bind]
  cases asked : (s.domain d).options.verify with
  | false => exact .inl ⟨rfl, rfl⟩
  | true =>
    rw [if_pos rfl, exec_bind]
    rcases exec_verifyClass d c lt with ⟨strict, p, ps, problems, failed⟩ | ⟨fits, u, ok, emits⟩
    · exact .inr (.inl ⟨rfl, strict, p, ps, problems, by rw [failed]⟩)
    · exact .inr (.inr ⟨rfl, fits, u, emits, by rw [ok]; rfl⟩)

theorem confined_checkClass {p : Footprint} (hc : c ∈ p.classes) (hd : d ∈ p.domains)
    (lt : d.index < s.domains.size) : Confined p s (exec (checkClass d c) s).2 := by
  rcases exec_checkClass c lt with
    ⟨_, run⟩ | ⟨_, _, _, _, _, run⟩ | ⟨_, _, u, emits, run⟩ <;> rw [run]
  · exact .refl p s
  · exact .refl p s
  · refine (emits.confined.mono (fun _ hp => hp.elim) (fun _ hp => hp.elim) (fun _ hp => hp.elim)
      (fun _ hp => hp.elim) ?_).trans (confined_modifyClass hc _)
    rintro _ rfl
    exact hd

/-- Of the class only the report changes. -/
theorem classAt_checkClass (lt : d.index < s.domains.size) (inside : c.index < s.classes.size)
    (h : exec (checkClass d c) s = (.ok (), t)) :
    t.classAt c = { s.classAt c with verification := (t.classAt c).verification } := by
  rcases exec_checkClass c lt with
    ⟨_, run⟩ | ⟨_, _, _, _, _, run⟩ | ⟨_, _, u, emits, run⟩ <;> rw [run] at h
  · obtain rfl := (Prod.mk.inj h).2
    rfl
  · cases h
  · obtain rfl := (Prod.mk.inj h).2
    have same : u.classAt c = s.classAt c := by rw [Store.classAt, emits.classes]; rfl
    rw [Store.classAt_modifyClass, if_pos ⟨rfl, emits.classes ▸ inside⟩, same]

/-- Objects and functions stay as they are. -/
theorem heap_checkClass (lt : d.index < s.domains.size)
    (h : exec (checkClass d c) s = (.ok (), t)) :
    t.objects = s.objects ∧ t.functions = s.functions := by
  rcases exec_checkClass c lt with
    ⟨_, run⟩ | ⟨_, _, _, _, _, run⟩ | ⟨_, _, u, emits, run⟩ <;> rw [run] at h
  · obtain rfl := (Prod.mk.inj h).2
    exact ⟨rfl, rfl⟩
  · cases h
  · obtain rfl := (Prod.mk.inj h).2
    exact ⟨emits.objects, emits.functions⟩

/-! ### What linking went through -/

/-- A class was allocated and prepared. -/
def Begun (d : DomainRef) (descriptor : ClassDescriptor) (base : Option ClassRef) (scope : Scope)
    (s t : Store) (c : ClassRef) (offered : FunctionRef) : Prop :=
  ∃ u, exec (allocateFor descriptor) s = (.ok c, u) ∧
    (prepareClass d descriptor base scope c).run u = (offered, t)

theorem Begun.prepared {offered : FunctionRef}
    (h : Begun d descriptor base scope s t c offered) :
    Prepared descriptor scope s t c offered := by
  obtain ⟨u, allocated, run⟩ := h
  have prepared : Prepared descriptor scope s
      ((prepareClass d descriptor base scope c).run u).2 c
      ((prepareClass d descriptor base scope c).run u).1 :=
    prepared_of_allocated (allocated_of_allocateFor allocated)
  rwa [run] at prepared

/-- What a link that succeeds went through. -/
theorem stages_of_link (h : exec (link d descriptor base scope) s = (.ok c, t)) :
    descriptor.validate = .ok () ∧ ∃ s₁ s₂ s₃ offered,
      Begun d descriptor base scope s s₁ c offered ∧
      exec (create d c base offered) s₁ = (.ok (), s₂) ∧
      exec (checkClass d c) s₂ = (.ok (), s₃) ∧
      t = ((announceClass d c).run ((bindMembers d c base (scope.push (.class c))).run s₃).2).2 := by
  rw [exec_link] at h
  split at h
  · cases h
  · refine ⟨‹_›, ?_⟩
    obtain ⟨c', s₁, allocated, h⟩ := exec_bind_ok.mp h
    rw [exec_lift_bind] at h
    obtain ⟨_, s₂, created, h⟩ := exec_bind_ok.mp h
    obtain ⟨_, s₃, checked, h⟩ := exec_bind_ok.mp h
    rw [exec_lift_bind, exec_lift_bind, exec_pure] at h
    obtain rfl := Except.ok.inj (Prod.mk.inj h).1
    exact ⟨_, s₂, s₃, _, ⟨s₁, allocated, rfl⟩, created, checked, (Prod.mk.inj h).2.symm⟩

/-- A link that fails writes nothing, or creating or checking the class fails. -/
theorem stages_of_failed_linkBy {make : Synthesis} (new : make.MakesNew)
    {members : ClassRef → Action Unit} {e : Fault}
    (h : exec (linkBy make members d descriptor base scope) s = (.error e, t)) :
    t = s ∨ ∃ c s₁ offered, Offered descriptor s s₁ c offered ∧
      (exec (create d c base offered) s₁ = (.error e, t) ∨
        ∃ s₂, exec (create d c base offered) s₁ = (.ok (), s₂) ∧
          exec (checkClass d c) s₂ = (.error e, t)) := by
  rw [exec_linkBy] at h
  split at h
  · exact .inl (Prod.mk.inj h).2.symm
  · rcases exec_bind_error.mp h with failed | ⟨c, s₁, allocated, h⟩
    · rcases exec_allocateFor descriptor s with ⟨c, s₁, ok, _⟩ | ⟨id, _, _, error⟩
      · cases ok.symm.trans failed
      · exact .inl (Prod.mk.inj (error.symm.trans failed)).2.symm
    · rw [exec_lift_bind] at h
      refine .inr ⟨c, _, _, offered_of_allocated new base scope (allocated_of_allocateFor allocated),
        ?_⟩
      rcases exec_bind_error.mp h with failed | ⟨_, s₂, created, h⟩
      · exact .inl failed
      rcases exec_bind_error.mp h with failed | ⟨_, s₃, checked, h⟩
      · exact .inr ⟨s₂, created, failed⟩
      · rw [exec_lift_bind, exec_pure] at h
        cases h

namespace Offered

variable {offered : FunctionRef}

/-- The constructor that the class ends up with is new. -/
theorem constructor_new (h : Offered descriptor s t c offered) :
    s.functions.size ≤ ((t.classAt c).constructor.getD offered).index ∧
      ((t.classAt c).constructor.getD offered).index < t.functions.size := by
  cases own : (t.classAt c).constructor with
  | none => exact ⟨h.offered_le, h.offered_lt⟩
  | some f => exact ⟨(h.parts.constructor f own).1, (h.parts.constructor f own).2.1⟩

/-- The template that its host constructor brought along is new, comes after the class object and
delegates to nothing. -/
theorem hostTemplate_new (h : Offered descriptor s t c offered) {o : ObjectRef}
    (ho : (t.classAt c).hostTemplate? t = some o) :
    (t.classAt c).object.index < o.index ∧ o.index < t.objects.size ∧ t.parent o = none := by
  cases own : (t.classAt c).constructor with
  | none => rw [Class.hostTemplate?, own] at ho; cases ho
  | some f =>
    obtain ⟨_, _, o', template, rest⟩ := h.parts.constructor f own
    rw [Class.hostTemplate?, own, Option.bind_some, template] at ho
    obtain rfl := Option.some.inj ho
    exact rest

/-- Creating a class that was allocated since `s` writes nothing that existed in `s`. -/
theorem confined_create (h : Offered descriptor s t c offered) (d : DomainRef)
    (base : Option ClassRef) :
    Confined (.beyond s d) t (exec (create d c base offered) t).2 := by
  refine ClassLink.confined_create (show c ∈ (Footprint.beyond s d).classes from h.le) rfl
    h.constructor_new.1 (fun o ho => ?_) (fun o ho => ?_) h.lt fun o ho => (h.hostTemplate_new ho).2.1
  · exact h.parts.object.1.trans (h.hostTemplate_new ho).1.le
  · exact h.confined.objects_le.trans ho

theorem confined_created (h : Offered descriptor s t c offered) {u : Store}
    (ok : exec (create d c base offered) t = (.ok (), u)) : Confined (.beyond s d) s u := by
  have second := h.confined_create d base
  rw [ok] at second
  exact h.confined.of_none.trans second

theorem created (h : Offered descriptor s t c offered) {u : Store}
    (ok : exec (create d c base offered) t = (.ok (), u)) :
    ∃ w, Created t u c base ((t.classAt c).constructor.getD offered) w :=
  created_of_create h.lt h.constructor_new.2 (fun _ ho => (h.hostTemplate_new ho).2.1) ok

/-- The class object is still the class's own. -/
theorem owner_object (h : Offered descriptor s t c offered) {d : DomainRef} {u : Store}
    (ok : exec (create d c base offered) t = (.ok (), u)) :
    u.owner (t.classAt c).object = some c := by
  have written : Confined
      ⟨{o | (t.classAt c).object.index < o.index}, ∅, Set.univ, Set.univ, Set.univ⟩ t
      (exec (create d c base offered) t).2 :=
    ClassLink.confined_create trivial trivial trivial (fun o ho => (h.hostTemplate_new ho).1)
      (fun o ho => h.parts.object.2.trans_le ho) h.lt fun o ho => (h.hostTemplate_new ho).2.1
  rw [ok] at written
  exact (written.owner _ h.parts.object.2
    fun lt => lt_irrefl (t.classAt c).object.index lt).trans h.owner

end Offered

/-- **What a link that fails leaves.** No place that existed is written; the domain may have new
diagnostics. -/
theorem confined_of_failed_linkBy {make : Synthesis} (new : make.MakesNew)
    {members : ClassRef → Action Unit} {e : Fault} (lt : d.index < s.domains.size)
    (h : exec (linkBy make members d descriptor base scope) s = (.error e, t)) :
    Confined (.beyond s d) s t := by
  rcases stages_of_failed_linkBy new h with rfl | ⟨c, s₁, offered, prepared, failed⟩
  · exact .refl _ t
  have first : Confined (.beyond s d) s s₁ := prepared.confined.of_none
  have second := prepared.confined_create d base
  rcases failed with failed | ⟨s₂, ok, failed⟩
  · rw [failed] at second
    exact first.trans second
  · rw [ok] at second
    have third := confined_checkClass (p := .beyond s d) (s := s₂)
      (show c ∈ (Footprint.beyond s d).classes from prepared.le) rfl
      ((first.trans second).domains_eq ▸ lt)
    rw [failed] at third
    exact (first.trans second).trans third

theorem confined_of_failed_link {e : Fault} (lt : d.index < s.domains.size)
    (h : exec (link d descriptor base scope) s = (.error e, t)) : Confined (.beyond s d) s t :=
  confined_of_failed_linkBy (makesNew_synthesize d) lt (exec_link_eq_linkBy .. ▸ h)

end

end ClassLink
