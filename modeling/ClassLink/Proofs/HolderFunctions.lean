import ClassLink.Proofs.HostObjects

/-!
# The functions of host objects

A host object is filled with functions made for it and with values of its description. So
whatever function it holds either existed before or is a function of the host, and no stub: a
native member that is resolved is never bound to a stub made in the same link.
-/

namespace ClassLink

/-! ### The functions of a property -/

/-- The function that a property is for members of a kind. -/
def Property.function? (p : Property) : MemberKind → Option FunctionRef
  | .method => p.method?
  | .getter => p.getter?
  | .setter => p.setter?
  | .slot => none

namespace PropertyTable

variable (t : PropertyTable)

theorem function?_eq (kind : MemberKind) (key : String) :
    t.function? kind key = (t.get? key).bind (·.function? kind) := by
  cases kind with
  | method | getter | setter => rfl
  | slot => cases t.get? key <;> rfl

theorem function?_put (key k : String) (p : Property) (kind : MemberKind) :
    (t.put key p).function? kind k = if k = key then p.function? kind else t.function? kind k := by
  rw [function?_eq, function?_eq, get?_put]
  split <;> rfl

variable {t} {key k : String} {f g : FunctionRef} {kind : MemberKind}

/-- A method is the function it is defined as. -/
theorem function?_defineMethod (h : (t.defineMethod key f).function? kind k = some g) :
    g = f ∨ t.function? kind k = some g := by
  rw [defineMethod, function?_put] at h
  split at h
  · cases kind with
    | method => exact .inl (Option.some.inj h).symm
    | getter | setter | slot => cases h
  · exact .inr h

/-- A getter is the function it is defined as, and the setter stays. -/
theorem function?_defineGetter (h : (t.defineGetter key f).function? kind k = some g) :
    g = f ∨ t.function? kind k = some g := by
  rw [defineGetter, function?_put] at h
  split at h
  · rename_i same
    subst same
    cases kind with
    | getter => exact .inl (Option.some.inj h).symm
    | setter => exact .inr h
    | method | slot => cases h
  · exact .inr h

/-- A setter is the function it is defined as, and the getter stays. -/
theorem function?_defineSetter (h : (t.defineSetter key f).function? kind k = some g) :
    g = f ∨ t.function? kind k = some g := by
  rw [defineSetter, function?_put] at h
  split at h
  · rename_i same
    subst same
    cases kind with
    | setter => exact .inl (Option.some.inj h).symm
    | getter => exact .inr h
    | method | slot => cases h
  · exact .inr h

/-- A value that is a function is a method. -/
theorem function?_defineValue {v : Value} (h : (t.defineValue key v).function? kind k = some g) :
    v = .function g ∨ t.function? kind k = some g := by
  rw [defineValue, function?_put] at h
  split at h
  · cases kind with
    | method =>
      cases v with
      | function f => exact .inl (congrArg _ (Option.some.inj h))
      | _ => cases h
    | getter | setter | slot => cases h
  · exact .inr h

end PropertyTable

/-! ### What objects hold -/

/-- Whatever function an object of `u` holds existed in `s`, or is a function of `u` and no stub. -/
def HoldsNoNewStub (s u : Store) (o : ObjectRef) : Prop :=
  ∀ kind name g, (u.properties o).function? kind name = some g →
    g.index < s.functions.size ∨
      g.index < u.functions.size ∧ (u.function g).isUnresolved = false

namespace HoldsNoNewStub

variable {s u v : Store} {o : ObjectRef}

/-- An object that is left alone holds what it held. -/
theorem later (h : HoldsNoNewStub s u o) (properties : v.properties o = u.properties o)
    (le : u.functions.size ≤ v.functions.size)
    (kept : ∀ g : FunctionRef, g.index < u.functions.size →
      (v.function g).isUnresolved = (u.function g).isUnresolved) : HoldsNoNewStub s v o := by
  intro kind name g hg
  rw [properties] at hg
  rcases h kind name g hg with old | ⟨lt, plain⟩
  · exact .inl old
  · exact .inr ⟨lt.trans_le le, (kept g lt).trans plain⟩

theorem confined {p : Footprint} (h : HoldsNoNewStub s u o) (inside : o.index < u.objects.size)
    (later : Confined p u v) (filled : o ∉ p.filled) (functions : ∀ g, g ∉ p.functions) :
    HoldsNoNewStub s v o :=
  h.later (later.properties o inside filled) later.functions_le fun g lt => by
    rw [later.function g lt (functions g)]

/-- What makes new objects and functions only lets an object hold what it held. -/
theorem of_none (h : HoldsNoNewStub s u o) (inside : o.index < u.objects.size)
    (later : Confined .none u v) : HoldsNoNewStub s v o :=
  h.confined inside later (Set.notMem_empty o) fun g => Set.notMem_empty g

/-- A property is defined whose functions are allowed, or were held under the same key. -/
theorem modifyProperties (h : HoldsNoNewStub s u o) {f : PropertyTable → PropertyTable}
    (new : ∀ kind name g, (f (u.properties o)).function? kind name = some g →
      (u.properties o).function? kind name = some g ∨ g.index < s.functions.size ∨
        g.index < u.functions.size ∧ (u.function g).isUnresolved = false) :
    HoldsNoNewStub s (u.modifyProperties o f) o := by
  intro kind name g hg
  have cases_ : (u.modifyProperties o f).properties o = f (u.properties o) ∨
      (u.modifyProperties o f).properties o = u.properties o := by
    simp only [Store.properties, Store.modifyProperties, Store.object_modifyObject]
    split
    · exact .inl rfl
    · exact .inr rfl
  rcases cases_ with same | same <;> rw [same] at hg
  · rcases new kind name g hg with old | allowed
    · exact h kind name g old
    · exact allowed
  · exact h kind name g hg

end HoldsNoNewStub

/-! ### Host objects -/

/-- The functions that the values of a description refer to exist. -/
def HolderDefinition.Closed (h : HolderDefinition) (s : Store) : Prop :=
  ∀ m ∈ h.members, ∀ g, m.body = .value (.function g) → g.index < s.functions.size

/-- The descriptions of the objects that are made for a host class. -/
def NativeDefinition.holderDefinitions (d : NativeDefinition) : List HolderDefinition :=
  d.statics :: (d.constructor.toList.map (·.prototype) ++
    (d.staticNatives.extras ++ d.instanceNatives.extras))

/-- The functions that a host class refers to exist. -/
def NativeDefinition.Closed (d : NativeDefinition) (s : Store) : Prop :=
  ∀ h ∈ d.holderDefinitions, h.Closed s

section
variable {s u : Store} {o : ObjectRef}

/-- A function of the host is made and defined on the object. -/
theorem holdsNoNewStub_made (h : HoldsNoNewStub s u o) (inside : o.index < u.objects.size)
    (name : String) (arity : UInt32) (f : HostFunction) {define : PropertyTable → PropertyTable}
    (new : ∀ t kind key g, (define t).function? kind key = some g →
      g = ⟨u.functions.size⟩ ∨ t.function? kind key = some g) :
    HoldsNoNewStub s
      (((newFunction (.host name arity f)).run u).2.modifyProperties o define) o := by
  have made := newFunction_function u (.host name arity f)
  have size := newFunction_size u (.host name arity f)
  have held := h.of_none inside (confined_newFunction .none u (.host name arity f))
  generalize ((newFunction (.host name arity f)).run u).2 = v at made size held
  refine held.modifyProperties fun kind key g hg => ?_
  rcases new _ kind key g hg with rfl | old
  · exact .inr (.inr ⟨lt_of_lt_of_eq (Nat.lt_succ_self _) size.symm, by rw [made]; rfl⟩)
  · exact .inl old

/-- A member defines a function made for it, or the value of its description. -/
theorem holdsNoNewStub_install (h : HoldsNoNewStub s u o) (inside : o.index < u.objects.size)
    (m : HolderMember) (label : String)
    (closed : ∀ g, m.body = .value (.function g) → g.index < s.functions.size) :
    HoldsNoNewStub s ((m.install label o).run u).2 o := by
  obtain ⟨name, body⟩ := m
  cases body with
  | method arity f =>
    exact holdsNoNewStub_made h inside _ arity f fun _ _ _ _ => PropertyTable.function?_defineMethod
  | getter f =>
    exact holdsNoNewStub_made h inside _ 0 f fun _ _ _ _ => PropertyTable.function?_defineGetter
  | setter f =>
    exact holdsNoNewStub_made h inside _ 1 f fun _ _ _ _ => PropertyTable.function?_defineSetter
  | value v =>
    refine h.modifyProperties fun kind key g hg => ?_
    rcases PropertyTable.function?_defineValue hg with rfl | old
    · exact .inr (.inl (closed g rfl))
    · exact .inl old

theorem HolderDefinition.holdsNoNewStub_instantiate (h : HolderDefinition) (closed : h.Closed s)
    (u : Store) : HoldsNoNewStub s (h.instantiate.run u).2 ⟨u.objects.size⟩ := by
  have run : (h.instantiate.run u).2 = ((h.members.forM fun m =>
      m.install h.label ⟨u.objects.size⟩).run ((newObject none).run u).2).2 := rfl
  have empty : HoldsNoNewStub s ((newObject none).run u).2 ⟨u.objects.size⟩ := by
    intro kind name g hg
    rw [Store.properties, newObject_object] at hg
    cases kind <;> cases hg
  have inside : u.objects.size < ((newObject none).run u).2.objects.size := by simp
  rw [run, run_forM]
  unfold HolderDefinition.Closed at closed
  generalize ((newObject none).run u).2 = v at empty inside
  generalize h.members = ms at closed
  induction ms generalizing v with
  | nil => exact empty
  | cons m ms ih =>
    have first := confined_install (p := .all) (o := ⟨u.objects.size⟩) trivial m h.label v
    exact ih _ (holdsNoNewStub_install empty inside m h.label (closed m List.mem_cons_self))
      (inside.trans_le first.objects_le) fun m' hm => closed m' (List.mem_cons_of_mem _ hm)

theorem Holders.holdsNoNewStub_instantiate (hs : Holders HolderDefinition)
    (closed : ∀ h ∈ hs.extras, h.Closed s) (u : Store) :
    ∀ o ∈ (hs.instantiate.run u).1.extras, HoldsNoNewStub s (hs.instantiate.run u).2 o := by
  cases hs with
  | inherited => exact fun _ ho => absurd ho List.not_mem_nil
  | own hs =>
    show ∀ o ∈ ((hs.mapM HolderDefinition.instantiate).run u).1,
      HoldsNoNewStub s ((hs.mapM HolderDefinition.instantiate).run u).2 o
    induction hs generalizing u with
    | nil => exact fun _ ho => absurd ho List.not_mem_nil
    | cons h hs ih =>
      rw [run_mapM_cons]
      intro o ho
      rcases List.mem_cons.mp ho with rfl | ho
      · exact (h.holdsNoNewStub_instantiate (closed h List.mem_cons_self) u).of_none
          (h.instantiate_lt u) (run_mapM_instantiate hs _).1
      · exact ih _ (fun h' hh => closed h' (List.mem_cons_of_mem _ hh)) o ho

/-- The host objects of a class: its class object, the template of its constructor and the further
holders. -/
def NativeParts.holders (parts : NativeParts) (t : Store) : List ObjectRef :=
  parts.classObject :: ((parts.constructor.bind t.template).toList ++
    (parts.staticNatives.extras ++ parts.instanceNatives.extras))

theorem ConstructorDefinition.holdsNoNewStub_instantiate (c : ConstructorDefinition)
    (closed : c.prototype.Closed s) (u : Store) {o : ObjectRef}
    (h : (c.instantiate.run u).2.template (c.instantiate.run u).1 = some o) :
    HoldsNoNewStub s (c.instantiate.run u).2 o := by
  have made := c.prototype.holdsNoNewStub_instantiate closed u
  have last := confined_newFunction .none (c.prototype.instantiate.run u).2
    (.hostConstructor c.name c.arity c.call c.construct ⟨u.objects.size⟩ !c.templateFixed)
  have template : (c.instantiate.run u).2.template (c.instantiate.run u).1 =
      some ⟨u.objects.size⟩ := by
    rw [Store.template]
    exact congrArg Function.template (newFunction_function ..)
  obtain rfl := Option.some.inj (template.symm.trans h)
  exact made.of_none (c.prototype.instantiate_lt u) last

/-- No host object of a class holds a stub made for the class. -/
theorem NativeDefinition.holdsNoNewStub_materialize (d : NativeDefinition) (closed : d.Closed s)
    (u : Store) : ∀ o ∈ (d.materialize.run u).1.holders (d.materialize.run u).2,
      HoldsNoNewStub s (d.materialize.run u).2 o := by
  generalize hs₁ : (d.statics.instantiate.run u).2 = s₁
  generalize hs₂ : ((instantiateConstructor d.constructor).run s₁).2 = s₂
  generalize hs₃ : (d.staticNatives.instantiate.run s₂).2 = s₃
  generalize hs₄ : (d.instanceNatives.instantiate.run s₃).2 = s₄
  have c₂ := hs₂ ▸ confined_instantiateConstructor d.constructor s₁
  have c₃ := hs₃ ▸ d.staticNatives.confined_instantiate s₂
  have c₄ := hs₄ ▸ d.instanceNatives.confined_instantiate s₃
  have lt : u.objects.size < s₁.objects.size := hs₁ ▸ d.statics.instantiate_lt u
  rw [d.materialize_run hs₁ hs₂ hs₃ hs₄]
  have closed' : ∀ h, h ∈ d.holderDefinitions → h.Closed s := closed
  simp only [holderDefinitions, List.mem_cons, List.mem_append, forall_eq_or_imp] at closed'
  obtain ⟨statics, others⟩ := closed'
  intro o ho
  simp only [NativeParts.holders, List.mem_cons, List.mem_append] at ho
  rcases ho with rfl | ho | ho | ho
  · have made := d.statics.holdsNoNewStub_instantiate statics u
    rw [hs₁] at made
    exact made.of_none lt (c₂.trans (c₃.trans c₄))
  · cases hc : d.constructor with
    | none => rw [hc] at ho; exact absurd ho List.not_mem_nil
    | some c =>
      have run : (instantiateConstructor (some c)).run s₁ =
          (some (c.instantiate.run s₁).1, (c.instantiate.run s₁).2) := rfl
      have made := c.instantiate_new s₁
      rw [hc, run] at ho hs₂
      simp only at hs₂
      rw [hs₂] at made
      have later := c₃.trans c₄
      obtain ⟨o', template, new, _⟩ := made.template
      rw [Option.bind_some, Store.template, later.function _ made.lt (Set.notMem_empty _)] at ho
      obtain rfl : o' = o := by
        rw [Store.template] at template
        rw [template] at ho
        exact (List.mem_singleton.mp ho).symm
      have held := c.holdsNoNewStub_instantiate (others c.prototype (.inl ?_)) s₁ (hs₂ ▸ template)
      · rw [hs₂] at held
        exact held.of_none new.2 later
      · rw [hc]
        exact List.mem_singleton.mpr rfl
  · have made := d.staticNatives.holdsNoNewStub_instantiate
      (fun h hh => others h (.inr (.inl hh))) s₂ o ho
    have new := d.staticNatives.instantiate_new s₂ o ho
    rw [hs₃] at made new
    exact made.of_none new.2 c₄
  · have made := d.instanceNatives.holdsNoNewStub_instantiate
      (fun h hh => others h (.inr (.inr hh))) s₃ o ho
    rwa [hs₄] at made

end

end ClassLink
