import ClassLink.Proofs.Execution
import Mathlib.Data.Set.Insert

/-!
# What an operation may write

A *footprint* names the places an operation may write, part by part: an object has links (its
parent and its owner) and properties, and of a domain only the diagnostics and the counts are
written before a class is entered in the directory. `Confined p s t` says that `t` is `s` with
new places at the end and changes inside the footprint `p` only. Runs of operations that are
confined to one footprint are confined to it (`Confined.trans`), and a place that did not exist
before may always be left out of the footprint (`Confined.mono`).
-/

namespace ClassLink

/-- The places an operation may write. -/
structure Footprint where
  /-- Objects whose parent or owner may change. -/
  linked : Set ObjectRef
  /-- Objects whose own properties may change. -/
  filled : Set ObjectRef
  functions : Set FunctionRef
  classes : Set ClassRef
  /-- Domains whose diagnostics and counts may change. -/
  domains : Set DomainRef

namespace Footprint

/-- Nothing may be written. -/
def none : Footprint := ⟨∅, ∅, ∅, ∅, ∅⟩

/-- Everything may be written. -/
def all : Footprint := ⟨Set.univ, Set.univ, Set.univ, Set.univ, Set.univ⟩

/-- Whatever a store does not have yet may be written, and one domain. -/
def beyond (s : Store) (d : DomainRef) : Footprint where
  linked := {o | s.objects.size ≤ o.index}
  filled := {o | s.objects.size ≤ o.index}
  functions := {f | s.functions.size ≤ f.index}
  classes := {c | s.classes.size ≤ c.index}
  domains := {d}

/-- Properties may be written, one class and one domain. -/
def members (c : ClassRef) (d : DomainRef) : Footprint where
  linked := ∅
  filled := Set.univ
  functions := ∅
  classes := {c}
  domains := {d}

end Footprint

/-- `t` is `s` with new places, and changed inside the footprint only. -/
structure Confined (p : Footprint) (s t : Store) : Prop where
  objects_le : s.objects.size ≤ t.objects.size
  functions_le : s.functions.size ≤ t.functions.size
  classes_le : s.classes.size ≤ t.classes.size
  domains_eq : t.domains.size = s.domains.size
  parent : ∀ o : ObjectRef, o.index < s.objects.size → o ∉ p.linked → t.parent o = s.parent o
  owner : ∀ o : ObjectRef, o.index < s.objects.size → o ∉ p.linked → t.owner o = s.owner o
  properties : ∀ o : ObjectRef, o.index < s.objects.size → o ∉ p.filled →
    t.properties o = s.properties o
  function : ∀ f : FunctionRef, f.index < s.functions.size → f ∉ p.functions →
    t.function f = s.function f
  classAt : ∀ c : ClassRef, c.index < s.classes.size → c ∉ p.classes → t.classAt c = s.classAt c
  domain : ∀ d, d ∉ p.domains → t.domain d = s.domain d
  /-- Diagnostics and counts apart, a domain stays as it is. -/
  settings : ∀ d, t.domain d =
    { s.domain d with diagnostics := (t.domain d).diagnostics, stats := (t.domain d).stats }
  natives : t.natives = s.natives

namespace Confined

variable {p q : Footprint} {s t u : Store}

theorem refl (p : Footprint) (s : Store) : Confined p s s where
  objects_le := le_rfl
  functions_le := le_rfl
  classes_le := le_rfl
  domains_eq := rfl
  parent _ _ _ := rfl
  owner _ _ _ := rfl
  properties _ _ _ := rfl
  function _ _ _ := rfl
  classAt _ _ _ := rfl
  domain _ _ := rfl
  settings _ := rfl
  natives := rfl

theorem trans (h : Confined p s t) (k : Confined p t u) : Confined p s u where
  objects_le := h.objects_le.trans k.objects_le
  functions_le := h.functions_le.trans k.functions_le
  classes_le := h.classes_le.trans k.classes_le
  domains_eq := k.domains_eq.trans h.domains_eq
  parent o ho hp := (k.parent o (ho.trans_le h.objects_le) hp).trans (h.parent o ho hp)
  owner o ho hp := (k.owner o (ho.trans_le h.objects_le) hp).trans (h.owner o ho hp)
  properties o ho hp := (k.properties o (ho.trans_le h.objects_le) hp).trans (h.properties o ho hp)
  function f hf hp := (k.function f (hf.trans_le h.functions_le) hp).trans (h.function f hf hp)
  classAt c hc hp := (k.classAt c (hc.trans_le h.classes_le) hp).trans (h.classAt c hc hp)
  domain d hd := (k.domain d hd).trans (h.domain d hd)
  settings d := by rw [k.settings d, h.settings d]
  natives := k.natives.trans h.natives

/-- A larger footprint does as well; of the smaller one only the places that existed matter. -/
theorem mono (h : Confined p s t)
    (linked : ∀ o ∈ p.linked, o.index < s.objects.size → o ∈ q.linked)
    (filled : ∀ o ∈ p.filled, o.index < s.objects.size → o ∈ q.filled)
    (functions : ∀ f ∈ p.functions, f.index < s.functions.size → f ∈ q.functions)
    (classes : ∀ c ∈ p.classes, c.index < s.classes.size → c ∈ q.classes)
    (domains : ∀ d ∈ p.domains, d ∈ q.domains) : Confined q s t where
  objects_le := h.objects_le
  functions_le := h.functions_le
  classes_le := h.classes_le
  domains_eq := h.domains_eq
  parent o ho hq := h.parent o ho fun hp => hq (linked o hp ho)
  owner o ho hq := h.owner o ho fun hp => hq (linked o hp ho)
  properties o ho hq := h.properties o ho fun hp => hq (filled o hp ho)
  function f hf hq := h.function f hf fun hp => hq (functions f hp hf)
  classAt c hc hq := h.classAt c hc fun hp => hq (classes c hp hc)
  domain d hq := h.domain d fun hp => hq (domains d hp)
  settings := h.settings
  natives := h.natives

/-- What writes nothing is confined to any footprint. -/
theorem of_none (h : Confined .none s t) : Confined p s t :=
  h.mono (fun _ hp => hp.elim) (fun _ hp => hp.elim) (fun _ hp => hp.elim) (fun _ hp => hp.elim)
    (fun _ hp => hp.elim)

/-- A sequence is confined if its steps are. -/
theorem bind {α β : Type} {x : Run α} {f : α → Run β} (first : Confined p s (exec x s).2)
    (then_ : ∀ a t, exec x s = (.ok a, t) → Confined p t (exec (f a) t).2) :
    Confined p s (exec (x >>= f) s).2 :=
  exec_bind_rel (r := Confined p) trans first then_

end Confined

/-- Whatever a store has, a later one has as it was, properties and domains apart. -/
structure Store.Keeps (s t : Store) : Prop where
  objects_le : s.objects.size ≤ t.objects.size
  functions_le : s.functions.size ≤ t.functions.size
  classes_le : s.classes.size ≤ t.classes.size
  domains_le : s.domains.size ≤ t.domains.size
  parent : ∀ o : ObjectRef, o.index < s.objects.size → t.parent o = s.parent o
  owner : ∀ o : ObjectRef, o.index < s.objects.size → t.owner o = s.owner o
  function : ∀ f : FunctionRef, f.index < s.functions.size → t.function f = s.function f
  classAt : ∀ c : ClassRef, c.index < s.classes.size → t.classAt c = s.classAt c

namespace Store.Keeps

variable {s t u : Store}

theorem refl (s : Store) : s.Keeps s :=
  ⟨le_rfl, le_rfl, le_rfl, le_rfl, fun _ _ => rfl, fun _ _ => rfl, fun _ _ => rfl, fun _ _ => rfl⟩

theorem trans (h : s.Keeps t) (k : t.Keeps u) : s.Keeps u where
  objects_le := h.objects_le.trans k.objects_le
  functions_le := h.functions_le.trans k.functions_le
  classes_le := h.classes_le.trans k.classes_le
  domains_le := h.domains_le.trans k.domains_le
  parent o ho := (k.parent o (ho.trans_le h.objects_le)).trans (h.parent o ho)
  owner o ho := (k.owner o (ho.trans_le h.objects_le)).trans (h.owner o ho)
  function f hf := (k.function f (hf.trans_le h.functions_le)).trans (h.function f hf)
  classAt c hc := (k.classAt c (hc.trans_le h.classes_le)).trans (h.classAt c hc)

end Store.Keeps

/-- Whatever a store has, in a later one delegates to what it did, and classes are as they were. -/
structure Store.KeepsLinks (s t : Store) : Prop where
  objects_le : s.objects.size ≤ t.objects.size
  classes_le : s.classes.size ≤ t.classes.size
  parent : ∀ o : ObjectRef, o.index < s.objects.size → t.parent o = s.parent o
  classAt : ∀ c : ClassRef, c.index < s.classes.size → t.classAt c = s.classAt c

namespace Store.KeepsLinks

variable {s t u : Store}

theorem refl (s : Store) : s.KeepsLinks s := ⟨le_rfl, le_rfl, fun _ _ => rfl, fun _ _ => rfl⟩

theorem trans (h : s.KeepsLinks t) (k : t.KeepsLinks u) : s.KeepsLinks u where
  objects_le := h.objects_le.trans k.objects_le
  classes_le := h.classes_le.trans k.classes_le
  parent o ho := (k.parent o (ho.trans_le h.objects_le)).trans (h.parent o ho)
  classAt c hc := (k.classAt c (hc.trans_le h.classes_le)).trans (h.classAt c hc)

end Store.KeepsLinks

theorem Store.Keeps.links {s t : Store} (h : s.Keeps t) : s.KeepsLinks t :=
  ⟨h.objects_le, h.classes_le, h.parent, h.classAt⟩

/-- What writes neither the links of objects nor classes. -/
theorem Confined.keepsLinks {p : Footprint} {s t : Store} (h : Confined p s t)
    (linked : ∀ o, o ∉ p.linked) (classes : ∀ c, c ∉ p.classes) : s.KeepsLinks t where
  objects_le := h.objects_le
  classes_le := h.classes_le
  parent o ho := h.parent o ho (linked o)
  classAt c hc := h.classAt c hc (classes c)

/-- What is written beyond a store, and properties, leaves what it has as it was. -/
theorem Confined.keeps {s t : Store} {d : DomainRef}
    (h : Confined { Footprint.beyond s d with filled := Set.univ } s t) : s.Keeps t where
  objects_le := h.objects_le
  functions_le := h.functions_le
  classes_le := h.classes_le
  domains_le := h.domains_eq.ge
  parent o ho := h.parent o ho ho.not_ge
  owner o ho := h.owner o ho ho.not_ge
  function f hf := h.function f hf hf.not_ge
  classAt c hc := h.classAt c hc hc.not_ge

/-- What is written beyond a store, and to a domain. -/
theorem Confined.keeps_of_beyond {s t : Store} {d : DomainRef} (h : Confined (.beyond s d) s t) :
    s.Keeps t :=
  Confined.keeps (d := d) (h.mono (fun _ hp _ => hp) (fun _ _ _ => trivial) (fun _ hp _ => hp)
    (fun _ hp _ => hp) fun _ hp => hp)

/-- An object is its two links and its properties. -/
theorem Confined.object {p : Footprint} {s t : Store} (h : Confined p s t) {o : ObjectRef}
    (inside : o.index < s.objects.size) (linked : o ∉ p.linked) (filled : o ∉ p.filled) :
    t.object o = s.object o := by
  have parent : (t.object o).parent = (s.object o).parent := h.parent o inside linked
  have owner : (t.object o).owner = (s.object o).owner := h.owner o inside linked
  have properties : (t.object o).properties = (s.object o).properties :=
    h.properties o inside filled
  cases h₁ : t.object o
  cases h₂ : s.object o
  rw [h₁, h₂] at parent owner properties
  exact (HeapObject.mk.injEq ..).mpr ⟨parent, properties, owner⟩

/-! ### The operations of the store -/

section
variable (p : Footprint) (s : Store)

theorem newObject_run (parent : Option ObjectRef) :
    (newObject parent).run s =
      (⟨s.objects.size⟩, { s with objects := s.objects.push (.bare parent) }) := rfl

theorem newFunction_run (f : Function) :
    (newFunction f).run s =
      (⟨s.functions.size⟩, { s with functions := s.functions.push f }) := rfl

theorem newClass_run (c : Class) :
    (newClass c).run s = (⟨s.classes.size⟩, { s with classes := s.classes.push c }) := rfl

@[simp] theorem log_run (r : LogRecord) : (log r).run s = ((), s.record r) := rfl

/-- An entry pushed to an array is read at its end, and every other entry as it was. -/
theorem Store.getD_push {α : Type} (xs : Array α) (x d : α) (i : Nat) :
    (xs.push x)[i]?.getD d = if i = xs.size then x else xs[i]?.getD d := by
  rw [Array.getElem?_push]
  split <;> rfl

theorem Store.object_push (x : HeapObject) (o : ObjectRef) :
    ({ s with objects := s.objects.push x } : Store).object o =
      if o.index = s.objects.size then x else s.object o :=
  Store.getD_push ..

theorem Store.function_push (x : Function) (f : FunctionRef) :
    ({ s with functions := s.functions.push x } : Store).function f =
      if f.index = s.functions.size then x else s.function f :=
  Store.getD_push ..

theorem Store.classAt_push (x : Class) (c : ClassRef) :
    ({ s with classes := s.classes.push x } : Store).classAt c =
      if c.index = s.classes.size then x else s.classAt c :=
  Store.getD_push ..

/-! Of the two links of an object each is written without the other. -/

@[simp] theorem Store.parent_setOwner (x : ObjectRef) (c : ClassRef) (o : ObjectRef) :
    (s.setOwner x c).parent o = s.parent o := by
  simp only [Store.parent, Store.setOwner, Store.object_modifyObject]
  split <;> rfl

theorem Store.owner_setOwner (x : ObjectRef) (c : ClassRef) (o : ObjectRef) :
    (s.setOwner x c).owner o = if x = o ∧ o.index < s.objects.size then some c else s.owner o := by
  simp only [Store.owner, Store.setOwner, Store.object_modifyObject]
  split <;> rfl

@[simp] theorem Store.size_setOwner (x : ObjectRef) (c : ClassRef) :
    (s.setOwner x c).objects.size = s.objects.size := Array.size_modify ..

theorem Store.size_modifyProperties (o : ObjectRef) (f : PropertyTable → PropertyTable) :
    (s.modifyProperties o f).objects.size = s.objects.size := Array.size_modify ..

/-- The properties of one object are written. -/
theorem Store.properties_modifyProperties (o x : ObjectRef) (f : PropertyTable → PropertyTable) :
    (s.modifyProperties o f).properties x =
      if o = x ∧ x.index < s.objects.size then f (s.properties x) else s.properties x := by
  rw [Store.properties, modifyProperties, object_modifyObject]
  split <;> rfl

/-- A new object has no properties, as places beyond the store have none. -/
theorem properties_newObject (parent : Option ObjectRef) :
    ((newObject parent).run s).2.properties = s.properties := by
  funext o
  rw [newObject_run, Store.properties, Store.object_push]
  split
  · rename_i last
    rw [Store.properties, Store.object, Array.getElem?_eq_none last.ge]
    rfl
  · rfl

theorem properties_setParent (o : ObjectRef) (parent : Option ObjectRef) :
    (s.setParent o parent).properties = s.properties := by
  funext x
  simp only [Store.properties, Store.setParent, Store.object_modifyObject]
  split <;> rfl

theorem properties_setOwner (o : ObjectRef) (c : ClassRef) :
    (s.setOwner o c).properties = s.properties := by
  funext x
  simp only [Store.properties, Store.setOwner, Store.object_modifyObject]
  split <;> rfl

/-! A place just given out holds what was put there. -/

@[simp] theorem newObject_fst (parent : Option ObjectRef) :
    ((newObject parent).run s).1 = ⟨s.objects.size⟩ := rfl

@[simp] theorem newObject_size (parent : Option ObjectRef) :
    ((newObject parent).run s).2.objects.size = s.objects.size + 1 :=
  Array.size_push ..

theorem newObject_object (parent : Option ObjectRef) :
    ((newObject parent).run s).2.object ⟨s.objects.size⟩ = .bare parent := by
  rw [newObject_run, Store.object_push, if_pos rfl]

@[simp] theorem newObject_parent (parent : Option ObjectRef) :
    ((newObject parent).run s).2.parent ⟨s.objects.size⟩ = parent := by
  rw [Store.parent, newObject_object, HeapObject.bare]

@[simp] theorem newFunction_size (f : Function) :
    ((newFunction f).run s).2.functions.size = s.functions.size + 1 :=
  Array.size_push ..

@[simp] theorem newFunction_function (f : Function) :
    ((newFunction f).run s).2.function ⟨s.functions.size⟩ = f := by
  rw [newFunction_run, Store.function_push, if_pos rfl]

@[simp] theorem newClass_classAt (c : Class) :
    ((newClass c).run s).2.classAt ⟨s.classes.size⟩ = c := by
  rw [newClass_run, Store.classAt_push, if_pos rfl]

theorem confined_newObject (parent : Option ObjectRef) :
    Confined p s ((newObject parent).run s).2 := by
  refine { Confined.refl p s with objects_le := ?_, parent := ?_, owner := ?_, properties := ?_ }
  · simp [newObject_run]
  all_goals
    intro o ho _
    simp only [newObject_run, Store.parent, Store.owner, Store.properties, Store.object_push,
      if_neg ho.ne]

theorem confined_newFunction (f : Function) : Confined p s ((newFunction f).run s).2 := by
  refine { Confined.refl p s with functions_le := ?_, function := ?_ }
  · simp [newFunction_run]
  · intro g hg _
    rw [newFunction_run, Store.function_push, if_neg hg.ne]

theorem confined_newClass (c : Class) : Confined p s ((newClass c).run s).2 := by
  refine { Confined.refl p s with classes_le := ?_, classAt := ?_ }
  · simp [newClass_run]
  · intro k hk _
    rw [newClass_run, Store.classAt_push, if_neg hk.ne]

theorem confined_record (r : LogRecord) : Confined p s (s.record r) := { Confined.refl p s with }

variable {p s}

theorem confined_modifyProperties {o : ObjectRef} (h : o ∈ p.filled)
    (g : PropertyTable → PropertyTable) : Confined p s (s.modifyProperties o g) := by
  refine { Confined.refl p s with objects_le := ?_, parent := ?_, owner := ?_, properties := ?_ }
  · simp [Store.modifyProperties, Store.modifyObject]
  · intro x _ _
    simp only [Store.parent, Store.modifyProperties, Store.object_modifyObject]
    split <;> rfl
  · intro x _ _
    simp only [Store.owner, Store.modifyProperties, Store.object_modifyObject]
    split <;> rfl
  · intro x _ hx
    have ne : ¬(o = x ∧ x.index < s.objects.size) := fun e => hx (e.1 ▸ h)
    simp only [Store.properties, Store.modifyProperties, Store.object_modifyObject, if_neg ne]

theorem confined_setParent {o : ObjectRef} (h : o ∈ p.linked) (parent : Option ObjectRef) :
    Confined p s (s.setParent o parent) := by
  refine { Confined.refl p s with objects_le := ?_, parent := ?_, owner := ?_, properties := ?_ }
  · simp [Store.setParent, Store.modifyObject]
  · intro x _ hx
    have ne : ¬(o = x ∧ x.index < s.objects.size) := fun e => hx (e.1 ▸ h)
    simp only [Store.parent, Store.setParent, Store.object_modifyObject, if_neg ne]
  · intro x _ _
    simp only [Store.owner, Store.setParent, Store.object_modifyObject]
    split <;> rfl
  · intro x _ _
    simp only [Store.properties, Store.setParent, Store.object_modifyObject]
    split <;> rfl

theorem confined_setOwner {o : ObjectRef} (h : o ∈ p.linked) (c : ClassRef) :
    Confined p s (s.setOwner o c) := by
  refine { Confined.refl p s with objects_le := ?_, parent := ?_, owner := ?_, properties := ?_ }
  · simp [Store.setOwner, Store.modifyObject]
  · exact fun x _ _ => Store.parent_setOwner ..
  · intro x _ hx
    have ne : ¬(o = x ∧ x.index < s.objects.size) := fun e => hx (e.1 ▸ h)
    rw [Store.owner_setOwner, if_neg ne]
  · intro x _ _
    simp only [Store.properties, Store.setOwner, Store.object_modifyObject]
    split <;> rfl

theorem confined_modifyFunction {f : FunctionRef} (h : f ∈ p.functions)
    (g : Function → Function) : Confined p s (s.modifyFunction f g) := by
  refine { Confined.refl p s with functions_le := ?_, function := ?_ }
  · simp [Store.modifyFunction]
  · intro x _ hx
    have ne : ¬(f = x ∧ x.index < s.functions.size) := fun e => hx (e.1 ▸ h)
    rw [Store.function_modifyFunction, if_neg ne]

theorem confined_setFunctionClass {f : FunctionRef} (h : f ∈ p.functions) (c : ClassRef) :
    Confined p s (s.setFunctionClass f c) :=
  confined_modifyFunction h _

theorem confined_modifyClass {c : ClassRef} (h : c ∈ p.classes) (g : Class → Class) :
    Confined p s (s.modifyClass c g) := by
  refine { Confined.refl p s with classes_le := ?_, classAt := ?_ }
  · simp [Store.modifyClass]
  · intro x _ hx
    have ne : ¬(c = x ∧ x.index < s.classes.size) := fun e => hx (e.1 ▸ h)
    rw [Store.classAt_modifyClass, if_neg ne]

theorem confined_modifyDomain {d : DomainRef} (h : d ∈ p.domains) (g : Domain → Domain)
    (kept : ∀ x, g x = { x with diagnostics := (g x).diagnostics, stats := (g x).stats }) :
    Confined p s (s.modifyDomain d g) := by
  refine { Confined.refl p s with domains_eq := ?_, domain := ?_, settings := ?_ }
  · simp [Store.modifyDomain]
  · intro x hx
    have ne : ¬(d = x ∧ x.index < s.domains.size) := fun e => hx (e.1 ▸ h)
    rw [Store.domain_modifyDomain, if_neg ne]
  · intro x
    rw [Store.domain_modifyDomain]
    split
    · exact kept _
    · rfl

theorem confined_emit {d : DomainRef} (h : d ∈ p.domains) (x : Diagnostic) :
    Confined p s ((emit d x).run s).2 :=
  (confined_record p s _).trans (confined_modifyDomain h _ fun _ => rfl)

/-- A diagnostic comes after those that a domain has. -/
theorem domain_emit {d : DomainRef} (lt : d.index < s.domains.size) (x : Diagnostic) :
    ((emit d x).run s).2.domain d =
      { s.domain d with diagnostics := (s.domain d).diagnostics ++ [x] } :=
  (Store.domain_modifyDomain ..).trans (if_pos ⟨rfl, lt⟩)

end

end ClassLink
