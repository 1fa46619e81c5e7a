import ClassLink.Proofs.Footprint

/-!
# Host objects are new

Making the host objects of a class writes nothing that existed before: the class object, the
template of the constructor and the further holders all lie beyond the store it started from,
and the class object is the first of them, hence none of the others.
-/

namespace ClassLink

/-- What every step of a loop is confined to confines the loop. -/
theorem Confined.foldl {α : Type} {p : Footprint} {g : Store → α → Store}
    (step : ∀ u a, Confined p u (g u a)) (xs : List α) (s : Store) :
    Confined p s (xs.foldl g s) := by
  induction xs generalizing s with
  | nil => exact .refl p s
  | cons a xs ih => exact (step s a).trans (ih (g s a))

/-- Defining a member writes to its object only. -/
theorem confined_install {p : Footprint} {o : ObjectRef} (h : o ∈ p.filled) (m : HolderMember)
    (label : String) (s : Store) : Confined p s ((m.install label o).run s).2 := by
  obtain ⟨name, body⟩ := m
  cases body with
  | method | getter | setter =>
    simp only [HolderMember.install, run_bind, modify_run]
    exact (confined_newFunction p s _).trans (confined_modifyProperties h _)
  | value =>
    simp only [HolderMember.install, modify_run]
    exact confined_modifyProperties h _

/-- A loop whose steps leave the classes leaves them. -/
theorem classes_foldl {α : Type} {g : Store → α → Store} (step : ∀ u a, (g u a).classes = u.classes)
    (xs : List α) (s : Store) : (xs.foldl g s).classes = s.classes := by
  induction xs generalizing s with
  | nil => rfl
  | cons a xs ih => exact (ih (g s a)).trans (step s a)

theorem classes_install (m : HolderMember) (label : String) (o : ObjectRef) (s : Store) :
    ((m.install label o).run s).2.classes = s.classes := by
  obtain ⟨name, body⟩ := m
  cases body <;> rfl

/-! ### Holders -/

namespace HolderDefinition

variable (h : HolderDefinition) (s : Store)

/-- The members are defined on the new object. -/
theorem instantiate_confined_new :
    Confined { Footprint.none with filled := {⟨s.objects.size⟩} } ((newObject none).run s).2
      (h.instantiate.run s).2 := by
  have run : (h.instantiate.run s).2 =
      ((h.members.forM fun m => m.install h.label ⟨s.objects.size⟩).run
        ((newObject none).run s).2).2 := rfl
  rw [run, run_forM]
  exact Confined.foldl (fun u m => confined_install (Set.mem_singleton_iff.mpr rfl) m h.label u) _ _

theorem confined_instantiate : Confined .none s (h.instantiate.run s).2 := by
  have new : Confined { Footprint.none with filled := {⟨s.objects.size⟩} } s
      (h.instantiate.run s).2 := (confined_newObject _ s none).trans (h.instantiate_confined_new s)
  refine new.mono (fun _ hp => hp.elim) ?_ (fun _ hp => hp.elim) (fun _ hp => hp.elim)
    (fun _ hp => hp.elim)
  rintro o rfl ho
  exact absurd ho (lt_irrefl _)

theorem classes_instantiate : (h.instantiate.run s).2.classes = s.classes := by
  have run : (h.instantiate.run s).2 =
      ((h.members.forM fun m => m.install h.label ⟨s.objects.size⟩).run
        ((newObject none).run s).2).2 := rfl
  rw [run, run_forM]
  exact classes_foldl (fun u m => classes_install m h.label _ u) _ _

theorem instantiate_lt : s.objects.size < (h.instantiate.run s).2.objects.size := by
  refine lt_of_lt_of_le ?_ (h.instantiate_confined_new s).objects_le
  rw [newObject_size]
  exact Nat.lt_succ_self _

/-- A holder delegates to nothing. -/
theorem instantiate_parent : (h.instantiate.run s).2.parent ⟨s.objects.size⟩ = none := by
  rw [(h.instantiate_confined_new s).parent _ (by simp) (Set.notMem_empty _), newObject_parent]

end HolderDefinition

/-- A place given out between two stores. -/
def ObjectRef.New (o : ObjectRef) (s t : Store) : Prop :=
  s.objects.size ≤ o.index ∧ o.index < t.objects.size

theorem ObjectRef.New.mono {o : ObjectRef} {s s' t t' : Store} (h : o.New s t)
    (hs : s'.objects.size ≤ s.objects.size) (ht : t.objects.size ≤ t'.objects.size) :
    o.New s' t' :=
  ⟨hs.trans h.1, h.2.trans_le ht⟩

theorem HolderDefinition.instantiate_new (h : HolderDefinition) (s : Store) :
    (h.instantiate.run s).1.New s (h.instantiate.run s).2 :=
  ⟨le_rfl, h.instantiate_lt s⟩

namespace Holders

/-- The objects made for a list of holders are new, and nothing else is written. -/
theorem run_mapM_instantiate (hs : List HolderDefinition) (s : Store) :
    Confined .none s ((hs.mapM HolderDefinition.instantiate).run s).2 ∧
      ∀ o ∈ ((hs.mapM HolderDefinition.instantiate).run s).1,
        o.New s ((hs.mapM HolderDefinition.instantiate).run s).2 := by
  induction hs generalizing s with
  | nil => exact ⟨.refl _ s, fun _ h => absurd h List.not_mem_nil⟩
  | cons h hs ih =>
    rw [run_mapM_cons]
    obtain ⟨confined, new⟩ := ih (h.instantiate.run s).2
    have first := h.confined_instantiate s
    refine ⟨first.trans confined, fun o ho => ?_⟩
    rcases List.mem_cons.mp ho with rfl | ho
    · exact (h.instantiate_new s).mono le_rfl confined.objects_le
    · exact (new o ho).mono first.objects_le le_rfl

theorem confined_instantiate (h : Holders HolderDefinition) (s : Store) :
    Confined .none s (h.instantiate.run s).2 := by
  cases h with
  | inherited => exact .refl _ s
  | own hs => exact (run_mapM_instantiate hs s).1

theorem classes_instantiate (h : Holders HolderDefinition) (s : Store) :
    (h.instantiate.run s).2.classes = s.classes := by
  cases h with
  | inherited => rfl
  | own hs =>
    show ((hs.mapM HolderDefinition.instantiate).run s).2.classes = s.classes
    induction hs generalizing s with
    | nil => rfl
    | cons h hs ih =>
      rw [run_mapM_cons]
      exact (ih _).trans (h.classes_instantiate s)

theorem instantiate_new (h : Holders HolderDefinition) (s : Store) :
    ∀ o ∈ (h.instantiate.run s).1.extras, o.New s (h.instantiate.run s).2 := by
  cases h with
  | inherited => exact fun _ ho => absurd ho List.not_mem_nil
  | own hs => exact (run_mapM_instantiate hs s).2

end Holders

/-! ### Constructors -/

/-- A function is new, and so is the template it has, which delegates to nothing. -/
structure NewConstructor (s t : Store) (f : FunctionRef) : Prop where
  le : s.functions.size ≤ f.index
  lt : f.index < t.functions.size
  template : ∃ o, t.template f = some o ∧ o.New s t ∧ t.parent o = none

namespace ConstructorDefinition

variable (c : ConstructorDefinition) (s : Store)

theorem confined_instantiate : Confined .none s (c.instantiate.run s).2 :=
  (c.prototype.confined_instantiate s).trans (confined_newFunction _ _ _)

theorem classes_instantiate : (c.instantiate.run s).2.classes = s.classes :=
  c.prototype.classes_instantiate s

theorem instantiate_new : NewConstructor s (c.instantiate.run s).2 (c.instantiate.run s).1 := by
  have host := c.prototype.confined_instantiate s
  have last := confined_newFunction .none (c.prototype.instantiate.run s).2
    (.hostConstructor c.name c.arity c.call c.construct ⟨s.objects.size⟩ !c.templateFixed)
  have function : (c.instantiate.run s).2.function (c.instantiate.run s).1 =
      .hostConstructor c.name c.arity c.call c.construct ⟨s.objects.size⟩ !c.templateFixed :=
    newFunction_function ..
  refine ⟨host.functions_le, ?_, ⟨s.objects.size⟩, ?_, ?_, ?_⟩
  · show _ < (Array.push _ _).size
    rw [Array.size_push]
    exact Nat.lt_succ_self _
  · rw [Store.template, function]
    rfl
  · exact (c.prototype.instantiate_new s).mono le_rfl last.objects_le
  · exact (last.parent _ (c.prototype.instantiate_lt s) (Set.notMem_empty _)).trans
      (c.prototype.instantiate_parent s)

end ConstructorDefinition

/-- The constructor of a definition that may have none. -/
def instantiateConstructor : Option ConstructorDefinition → Action (Option FunctionRef)
  | none => pure none
  | some c => some <$> c.instantiate

theorem confined_instantiateConstructor (c : Option ConstructorDefinition) (s : Store) :
    Confined .none s ((instantiateConstructor c).run s).2 := by
  cases c with
  | none => exact .refl _ s
  | some c => exact c.confined_instantiate s

theorem classes_instantiateConstructor (c : Option ConstructorDefinition) (s : Store) :
    ((instantiateConstructor c).run s).2.classes = s.classes := by
  cases c with
  | none => rfl
  | some c => exact c.classes_instantiate s

theorem instantiateConstructor_new (c : Option ConstructorDefinition) (s : Store) :
    ∀ f, ((instantiateConstructor c).run s).1 = some f →
      NewConstructor s ((instantiateConstructor c).run s).2 f := by
  cases c with
  | none =>
    intro f h
    cases h
  | some c =>
    rintro _ ⟨⟩
    exact c.instantiate_new s

/-! ### Host classes -/

/-- What is known of the host objects made for a class. -/
structure NativeParts.Made (parts : NativeParts) (s t : Store) : Prop where
  confined : Confined .none s t
  classObject : parts.classObject.index = s.objects.size
  classObject_lt : parts.classObject.index < t.objects.size
  constructor : ∀ f, parts.constructor = some f → s.functions.size ≤ f.index ∧
    f.index < t.functions.size ∧ ∃ o, t.template f = some o ∧
      parts.classObject.index < o.index ∧ o.index < t.objects.size ∧ t.parent o = none
  extras : ∀ o ∈ parts.staticNatives.extras ++ parts.instanceNatives.extras,
    parts.classObject.index < o.index ∧ o.index < t.objects.size

/-- The four parts are made in this order, each in the store that the one before leaves. -/
theorem NativeDefinition.materialize_run (d : NativeDefinition) {s s₁ s₂ s₃ s₄ : Store}
    (h₁ : (d.statics.instantiate.run s).2 = s₁)
    (h₂ : ((instantiateConstructor d.constructor).run s₁).2 = s₂)
    (h₃ : (d.staticNatives.instantiate.run s₂).2 = s₃)
    (h₄ : (d.instanceNatives.instantiate.run s₃).2 = s₄) :
    d.materialize.run s =
      ({ classObject := ⟨s.objects.size⟩
         constructor := ((instantiateConstructor d.constructor).run s₁).1
         staticNatives := (d.staticNatives.instantiate.run s₂).1
         instanceNatives := (d.instanceNatives.instantiate.run s₃).1
         callStyle := d.callStyle
         coercion := d.coercion
         defaultValue := d.defaultValue
         initFlags := d.initFlags }, s₄) := by
  subst h₁ h₂ h₃ h₄
  obtain ⟨id, statics, constructor, staticNatives, instanceNatives, _, _, _, _⟩ := d
  cases constructor <;> rfl

/-- No class is made. -/
theorem NativeDefinition.classes_materialize (d : NativeDefinition) (s : Store) :
    (d.materialize.run s).2.classes = s.classes := by
  rw [d.materialize_run rfl rfl rfl rfl, d.instanceNatives.classes_instantiate,
    d.staticNatives.classes_instantiate, classes_instantiateConstructor,
    d.statics.classes_instantiate]

theorem NativeDefinition.materialize_made (d : NativeDefinition) (s : Store) :
    (d.materialize.run s).1.Made s (d.materialize.run s).2 := by
  generalize hs₁ : (d.statics.instantiate.run s).2 = s₁
  generalize hs₂ : ((instantiateConstructor d.constructor).run s₁).2 = s₂
  generalize hs₃ : (d.staticNatives.instantiate.run s₂).2 = s₃
  generalize hs₄ : (d.instanceNatives.instantiate.run s₃).2 = s₄
  have c₁ := hs₁ ▸ d.statics.confined_instantiate s
  have c₂ := hs₂ ▸ confined_instantiateConstructor d.constructor s₁
  have c₃ := hs₃ ▸ d.staticNatives.confined_instantiate s₂
  have c₄ := hs₄ ▸ d.instanceNatives.confined_instantiate s₃
  have lt : s.objects.size < s₁.objects.size := hs₁ ▸ d.statics.instantiate_lt s
  have new := hs₂ ▸ instantiateConstructor_new d.constructor s₁
  have later := c₃.trans c₄
  rw [d.materialize_run hs₁ hs₂ hs₃ hs₄]
  refine ⟨c₁.trans (c₂.trans later), rfl, lt.trans_le (c₂.trans later).objects_le, ?_, ?_⟩
  · intro f hf
    obtain ⟨le, lt', o, template, isNew, parent⟩ := new f hf
    refine ⟨c₁.functions_le.trans le, lt'.trans_le later.functions_le, o, ?_,
      lt.trans_le isNew.1, isNew.2.trans_le later.objects_le, ?_⟩
    · rw [Store.template, later.function f lt' (Set.notMem_empty _)]
      exact template
    · exact (later.parent o isNew.2 (Set.notMem_empty _)).trans parent
  · intro o ho
    rcases List.mem_append.mp ho with ho | ho
    · have isNew : o.New s₂ s₃ := hs₃ ▸ d.staticNatives.instantiate_new s₂ o ho
      exact ⟨lt.trans_le (c₂.objects_le.trans isNew.1), isNew.2.trans_le c₄.objects_le⟩
    · have isNew : o.New s₃ s₄ := hs₄ ▸ d.instanceNatives.instantiate_new s₃ o ho
      exact ⟨lt.trans_le ((c₂.trans c₃).objects_le.trans isNew.1), isNew.2⟩

end ClassLink
