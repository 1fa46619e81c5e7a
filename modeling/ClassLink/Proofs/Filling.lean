import ClassLink.Proofs.Bases
import ClassLink.Proofs.Outlines
import Mathlib.Algebra.Group.Defs

/-!
# What creating and binding add

Creating a class writes no properties, takes the template that the host constructor brought along if
there is one, and says so if the constructor that the class is offered is not used. Binding a trait
set adds one table to the class, whose outline is known beforehand, and its keys to one object; the
domain counts the table, its members and the stubs.
-/

namespace ClassLink

variable {s t u : Store} {d : DomainRef} {c : ClassRef} {base : Option ClassRef}
  {offered : FunctionRef}

/-! ### Creating -/

/-- Configuring defines no properties. -/
theorem properties_of_configure (h : exec (configure c base) s = (.ok (), t)) :
    t.properties = s.properties := by
  rw [exec_configure] at h
  split at h
  · cases h
  rcases fixed : fixedTemplate? s (s.classAt c) with e | (_ | template) <;> rw [fixed] at h
  · cases h
  · rcases found : delegateParent? s (s.classAt c) base with e | parent <;> rw [found] at h
    · cases h
    obtain rfl := (Prod.mk.inj h).2
    show ((buildTemplates (s.classAt c) base parent).run s).2.properties = _
    rw [buildTemplates_run]
    cases (s.classAt c).hostTemplate? s with
    | none => exact (properties_newObject ..).trans (properties_newObject ..)
    | some template => exact (properties_setParent ..).trans (properties_newObject ..)
  · obtain rfl := (Prod.mk.inj h).2
    rfl

/-- A template that the host constructor brought along is the template of the class. -/
theorem template_of_configure (lt : c.index < s.classes.size) {o : ObjectRef}
    (host : (s.classAt c).hostTemplate? s = some o)
    (h : exec (configure c base) s = (.ok (), t)) : (t.classAt c).template? = some o := by
  rw [exec_configure] at h
  split at h
  · cases h
  rcases fixed : fixedTemplate? s (s.classAt c) with e | (_ | template) <;> rw [fixed] at h
  · cases h
  · rcases found : delegateParent? s (s.classAt c) base with e | parent <;> rw [found] at h
    · cases h
    obtain rfl := (Prod.mk.inj h).2
    have classes := (buildTemplates_keeps (s.classAt c) base parent s).2.2.1
    have built : ((buildTemplates (s.classAt c) base parent).run s).1.template = o := by
      rw [buildTemplates_run, host]
    rw [Store.classAt_modifyClass, if_pos ⟨rfl, classes ▸ lt⟩, Class.template?, Option.map_some,
      built]
  · obtain rfl := (Prod.mk.inj h).2
    have same := (hostTemplate?_of_fixed fixed).symm.trans host
    rw [Store.classAt_modifyClass, if_pos ⟨rfl, lt⟩, ← same]
    rfl

/-- Finishing a class defines no properties and says nothing. -/
theorem of_finishClass {f : FunctionRef} {w : Wiring}
    (h : exec (finishClass c f w) s = (.ok (), t)) :
    t.properties = s.properties ∧ t.domain d = s.domain d ∧
      (t.classAt c).wiring = (s.classAt c).wiring := by
  have domain := confined_finishClass (p := ⟨Set.univ, ∅, Set.univ, Set.univ, ∅⟩) (c := c) (f := f)
    (w := w) trivial trivial trivial trivial s
  have wiring := Store.keepsWirings_finishClass c f w s c
  rw [h] at domain wiring
  refine ⟨?_, domain.domain d (Set.notMem_empty d), wiring⟩
  have owned : ∀ v : Store, ((v.setOwner w.template c).setOwner w.delegate c).properties =
      v.properties := fun v => (properties_setOwner ..).trans (properties_setOwner ..)
  rw [exec_finishClass, exec_setTemplate] at h
  split_ifs at h
  · obtain rfl := (Prod.mk.inj h).2
    exact owned _
  · obtain rfl := (Prod.mk.inj h).2
    exact owned _
  · cases h

/-- **Creating a class** defines no properties, keeps a template that the host constructor brought
along, and says that the constructor offered is ignored exactly if the class has one. -/
theorem effects_of_create (lt : c.index < s.classes.size) (inside : d.index < s.domains.size)
    (template : ∀ o, (s.classAt c).hostTemplate? s = some o → o.index < s.objects.size)
    (h : exec (create d c base offered) s = (.ok (), t)) :
    t.properties = s.properties ∧
      (∀ o, (s.classAt c).hostTemplate? s = some o → (t.classAt c).template? = some o) ∧
      t.domain d = { s.domain d with
        diagnostics := (s.domain d).diagnostics ++
          if (s.classAt c).constructor.isSome then
            [.warning (s.className c) .ignoredConstructor] else [] } := by
  obtain ⟨u, w, configured, wired, first, finished⟩ := stages_of_create lt template h
  obtain ⟨_, objects, _⟩ := setConstructor_settled d c offered (lt.trans_le first.classes_le)
  have run := setConstructor_run d c offered u
  have wiring := Store.keepsWirings_setConstructor d c offered u c
  generalize (setConstructor d c offered).run u = r at finished objects run wiring
  obtain ⟨b, v⟩ := r
  obtain ⟨properties, domain, kept⟩ := of_finishClass (d := d) finished
  have same : u.domain d = s.domain d := first.domain d (Set.notMem_empty d)
  have constructor : (u.classAt c).constructor = (s.classAt c).constructor := by rw [wired.classAt]
  have name : (u.classAt c).name = s.className c := by rw [wired.classAt]; rfl
  refine ⟨?_, fun o ho => ?_, ?_⟩
  · rw [properties, ← properties_of_configure configured]
    funext o
    rw [Store.properties, Store.object, objects]
    rfl
  · have own := template_of_configure lt ho configured
    rwa [Class.template?, kept, wiring]
  · rw [domain]
    rw [constructor, name] at run
    cases own : (s.classAt c).constructor with
    | none =>
      rw [own] at run
      obtain rfl := (Prod.mk.inj run).2
      rw [Option.isSome_none, if_neg Bool.false_ne_true, List.append_nil]
      exact same
    | some f =>
      rw [own] at run
      obtain rfl := (Prod.mk.inj run).2
      rw [Option.isSome_some, if_pos rfl, ← same]
      exact domain_emit (first.domains_eq ▸ inside) _

/-! ### Binding a trait set -/

/-- Counts of one thing and another. -/
instance : Add BindingStats :=
  ⟨fun x y => ⟨x.tables + y.tables, x.members + y.members, x.stubs + y.stubs⟩⟩

instance : Zero BindingStats := ⟨⟨0, 0, 0⟩⟩

instance : AddCommMonoid BindingStats where
  nsmul := nsmulRec
  add_assoc _ _ _ := (BindingStats.mk.injEq ..).mpr
    ⟨Nat.add_assoc .., Nat.add_assoc .., Nat.add_assoc ..⟩
  zero_add _ := (BindingStats.mk.injEq ..).mpr ⟨Nat.zero_add _, Nat.zero_add _, Nat.zero_add _⟩
  add_zero _ := rfl
  add_comm _ _ := (BindingStats.mk.injEq ..).mpr ⟨Nat.add_comm .., Nat.add_comm .., Nat.add_comm ..⟩

/-- Counting a table adds it to the counts. -/
theorem Domain.stats_countTable (x : Domain) (members : Nat) :
    (x.countTable members).stats = x.stats + ⟨1, members, 0⟩ := rfl

/-- What binding a trait set and installing it on an object adds. -/
structure Fills (d : DomainRef) (y : Terms) (traits : List Trait) (o : ObjectRef) (s t : Store)
    (b : Bindings) : Prop where
  outlined : b.OutlinedBy y traits t
  keys : (t.properties o).keys = (y.keys traits).foldl arrive (s.properties o).keys
  diagnostics : (t.domain d).diagnostics = (s.domain d).diagnostics
  stats : (t.domain d).stats = (s.domain d).stats +
    ⟨1, (y.ids traits).length, traits.countP (·.lacks y.suppliers)⟩

/-- **Binding a trait set** in given terms. -/
theorem BindingContext.Meets.install {x : BindingContext} {y : Terms} (h : x.Meets y s)
    {traits : List Trait} (nodup : (traits.map Trait.id).Nodup) {o : ObjectRef}
    (inside : o.index < s.objects.size) (listed : (s.properties o).Agrees) (c : ClassRef)
    (keep : Bindings → Class → Class) :
    Fills x.domain y traits o s ((x.install traits (some o) c keep).run s).2
      ((x.install traits (some o) c keep).run s).1 := by
  have outlined := h.build nodup
  obtain ⟨binds, _⟩ := x.build_spec traits s h.inside
  rw [install_run]
  generalize (x.build traits).run s = r at outlined binds
  obtain ⟨b, u⟩ := r
  simp only at outlined binds ⊢
  have lt : x.domain.index < u.domains.size := binds.confined.domains_eq ▸ h.inside
  have properties : u.properties o = s.properties o := by
    rw [Store.properties, Store.object, binds.objects]
    rfl
  have applied : (((b.applyTo x.domain o .replace).run u).2.domain x.domain) = _ :=
    domain_applyTo b o .replace lt
  refine ⟨outlined.later le_rfl fun _ _ => rfl, ?_, ?_, ?_⟩
  · have filled := b.properties_applyTo x.domain o .replace u o
    rw [if_pos ⟨rfl, binds.objects ▸ inside⟩, properties] at filled
    show (((b.applyTo x.domain o .replace).run u).2.properties o).keys = _
    rw [filled, b.keys_applied_replace listed, Bindings.keys, outlined.ids_flattened]
    rfl
  · show (((b.applyTo x.domain o .replace).run u).2.domain x.domain).diagnostics = _
    rw [applied]
    exact binds.diagnostics
  · have count : traits.countP (·.isMissing s x.holders) = traits.countP (·.lacks y.suppliers) :=
      List.countP_congr fun m _ => by rw [m.isMissing_eq_lacks h.holders]
    have length : (b.pending .replace (u.properties o)).length = (y.ids traits).length := by
      rw [← outlined.ids_flattened, Bindings.ids, List.length_map]
      rfl
    show (((b.applyTo x.domain o .replace).run u).2.domain x.domain).stats = _
    rw [applied, Domain.stats_countTable, length, binds.stats, count]
    rfl

end ClassLink
