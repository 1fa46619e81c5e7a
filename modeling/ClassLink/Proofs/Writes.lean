import ClassLink.Proofs.Execution
import ClassLink.Proofs.KeyLists
import ClassLink.Proofs.Loops

/-!
# Writing a property

What a write does depends on the property that the key means, wherever on the chain of the object
it is found. An accessor with a setter is not written at all: the setter is called, once, and what
it leaves and how it fails is what the write leaves and how it fails. An accessor without a setter
lets every write go by. If the key means anything else, or nothing, the value is stored in the
object that was asked, and nowhere else: it is what the key means from then on, whatever the objects
further up own under it (`writes_of_ends`).

A write decides twice. It looks the key up along the whole chain, and then looks at the own table to
find whether the key is shown. The two agree: what the object owns itself is the nearest there is,
so if that is an accessor, the lookup has found it and nothing is stored. In particular no key is
listed twice.
-/

namespace ClassLink

/-- Storing a value changes no other key. -/
theorem PropertyTable.get?_store_of_ne (t : PropertyTable) {key k : String} (other : k ≠ key)
    (v : Value) : (t.store key v).get? k = t.get? k := by
  unfold store
  split <;> exact (lookup_putEntry ..).trans (if_neg other)

namespace Store

/-- A value is stored in an object under a key. A key that was there stays in its place and is shown
or hidden as before; one that was not comes last and is shown. Nothing else changes. -/
structure Stored (s t : Store) (o : ObjectRef) (key : String) (v : Value) : Prop where
  kept : ∀ w shown, (s.properties o).get? key = some (.data w shown) →
    (t.properties o).get? key = some (.data v shown) ∧
      (t.properties o).keys = (s.properties o).keys
  arrived : (s.properties o).get? key = none →
    (t.properties o).get? key = some (.data v true) ∧
      (t.properties o).keys = (s.properties o).keys ++ [key]
  otherKeys : ∀ k ≠ key, (t.properties o).get? k = (s.properties o).get? k
  parent : t.parent o = s.parent o
  owner : t.owner o = s.owner o
  otherObjects : ∀ x ≠ o, t.object x = s.object x
  size : t.objects.size = s.objects.size
  rest : t = { s with objects := t.objects }

variable {s : Store} {o : ObjectRef} {key : String} {v : Value}

/-- Changing the properties of an object changes nothing else. -/
theorem object_modifyProperties (s : Store) (o x : ObjectRef) (f : PropertyTable → PropertyTable) :
    (s.modifyProperties o f).object x =
      if o = x ∧ x.index < s.objects.size then
        { s.object x with properties := f (s.object x).properties }
      else s.object x :=
  s.object_modifyObject o x _

theorem stored_modifyProperties (inside : o.index < s.objects.size) (key : String) (v : Value) :
    s.Stored (s.modifyProperties o (·.store key v)) o key v := by
  have own := s.object_modifyProperties o o (·.store key v)
  rw [if_pos ⟨rfl, inside⟩] at own
  have table : (s.modifyProperties o (·.store key v)).properties o =
      (s.properties o).store key v := congrArg HeapObject.properties own
  refine ⟨fun w shown h => ?_, fun h => ?_, fun k other => ?_, ?_, ?_, fun x other => ?_,
    Array.size_modify .., rfl⟩
  · rw [table, PropertyTable.store_of_data h, PropertyTable.get?_put, if_pos rfl,
      PropertyTable.put_of_contains (PropertyTable.contains_of_get? h)]
    exact ⟨rfl, rfl⟩
  · rw [table, PropertyTable.store_of_none h, PropertyTable.get?_put, if_pos rfl,
      PropertyTable.put_of_absent h]
    exact ⟨rfl, rfl⟩
  · rw [table, PropertyTable.get?_store_of_ne _ other]
  · rw [Store.parent, own]
    rfl
  · rw [Store.owner, own]
    rfl
  · rw [object_modifyProperties, if_neg fun same => other same.1.symm]

/-- What a write does to an object, by the nearest property under the key. -/
structure Writes (s : Store) (o : ObjectRef) (key : String) (v : Value) : Prop where
  /-- It is no accessor. No function is called, and none to read what is written. -/
  stored : (∀ x getter setter, s.Nearest o key x →
      (s.properties x).get? key ≠ some (.accessor getter setter)) →
    ∃ t, s.Stored t o key v ∧ ∀ invoke, exec (writeProperty invoke o key v) s = (.ok (), t) ∧
      exec (readProperty invoke o key) t = (.ok v, t)
  /-- It is an accessor with a setter. -/
  called : ∀ x getter setter, s.Nearest o key x →
    (s.properties x).get? key = some (.accessor getter (some setter)) →
    ∀ invoke, exec (writeProperty invoke o key v) s =
      ((exec (invoke setter (.object o) [v]) s).1.map fun _ => (),
        (exec (invoke setter (.object o) [v]) s).2)
  /-- It is an accessor without setter. -/
  ignored : ∀ x getter, s.Nearest o key x →
    (s.properties x).get? key = some (.accessor getter none) →
    ∀ invoke, exec (writeProperty invoke o key v) s = (.ok (), s)

/-- A key that means no accessor is stored. -/
theorem exec_writeProperty_of_no_accessor
    (h : ∀ getter setter, s.lookup o key ≠ some (.accessor getter setter)) (invoke : Invoke) :
    exec (writeProperty invoke o key v) s = (.ok (), s.modifyProperties o (·.store key v)) := by
  rw [writeProperty, exec_get_bind]
  split
  · rename_i found
    exact absurd found (h _ _)
  · rename_i found
    exact absurd found (h _ _)
  · rfl

/-- A value that was stored is read, and reading it calls no function. -/
theorem Stored.exec_readProperty {t : Store} (h : s.Stored t o key v)
    (free : ∀ getter setter, (s.properties o).get? key ≠ some (.accessor getter setter))
    (invoke : Invoke) : exec (readProperty invoke o key) t = (.ok v, t) := by
  have own : ∃ shown, (t.properties o).get? key = some (.data v shown) := by
    cases found : (s.properties o).get? key with
    | none => exact ⟨true, (h.arrived found).1⟩
    | some p =>
      cases p with
      | data w shown => exact ⟨shown, (h.kept w shown found).1⟩
      | accessor getter setter => exact absurd found (free getter setter)
  obtain ⟨shown, own⟩ := own
  rw [readProperty, exec_get_bind, lookup_of_own own]
  rfl

/-- **Writing a property**, of an object whose chain comes to an end. -/
theorem writes_of_ends (inside : o.index < s.objects.size) (ends : Chain.Ends s.parent o)
    (key : String) (v : Value) : s.Writes o key v where
  stored free := by
    have plain : ∀ getter setter, s.lookup o key ≠ some (.accessor getter setter) := by
      intro getter setter found
      obtain ⟨x, nearest, owns⟩ := (lookup_eq_some_iff ends).mp found
      exact free x getter setter nearest owns
    have stored := stored_modifyProperties inside key v
    refine ⟨_, stored, fun invoke => ⟨exec_writeProperty_of_no_accessor plain invoke, ?_⟩⟩
    exact stored.exec_readProperty (fun getter setter own => plain _ _ (lookup_of_own own)) invoke
  called x getter setter nearest owns invoke := by
    have found := (lookup_eq_some_iff ends).mpr ⟨x, nearest, owns⟩
    rw [writeProperty, exec_get_bind, found]
    show exec (invoke setter (.object o) [v] >>= fun _ => pure ()) s = _
    rw [exec_bind]
    rcases exec (invoke setter (.object o) [v]) s with ⟨e | a, t⟩ <;> rfl
  ignored x getter nearest owns invoke := by
    have found := (lookup_eq_some_iff ends).mpr ⟨x, nearest, owns⟩
    rw [writeProperty, exec_get_bind, found]
    rfl

end Store

/-- Four writes to the last object of a chain: to a key of the first object, which comes last among
its own keys; to its own key, which stays hidden; to a key with a setter, which writes another key
of the receiver; and to a key that cannot be written. -/
theorem writes_of_ends_lineal :
    let s := Sample.lineal
    let five : Value := .int 5
    2 < s.objects.size ∧ Chain.Ends s.parent ⟨2⟩ ∧
    (∃ t, exec (setProperty ⟨2⟩ "x" five) s = (.ok (), t) ∧
      exec (getProperty ⟨2⟩ "x") t = (.ok five, t) ∧
      (t.properties ⟨2⟩).keys = ["w", "x"] ∧ t.object ⟨0⟩ = s.object ⟨0⟩) ∧
    (∃ t, exec (setProperty ⟨2⟩ "w" five) s = (.ok (), t) ∧
      (t.properties ⟨2⟩).get? "w" = some (.data five false)) ∧
    (∃ t, exec (setProperty ⟨2⟩ "y" five) s = (.ok (), t) ∧
      (t.properties ⟨2⟩).get? "y" = none ∧
      (t.properties ⟨2⟩).get? "v" = some (.data five true)) ∧
    exec (setProperty ⟨2⟩ "z" five) s = (.ok (), s) := by
  intro s five
  have inside : 2 < s.objects.size := by decide +kernel
  have writes := fun key => Store.writes_of_ends inside Sample.ends_lineal key five
  have nearest : ∀ key p, s.lookup ⟨2⟩ key = some p ↔
      ∃ x, s.Nearest ⟨2⟩ key x ∧ (s.properties x).get? key = some p :=
    fun _ _ => Store.lookup_eq_some_iff Sample.ends_lineal
  refine ⟨inside, Sample.ends_lineal, ?_, ?_, ?_, ?_⟩
  · have found : s.lookup ⟨2⟩ "x" = some (.data (.int 1) true) := by decide +kernel
    obtain ⟨t, stored, both⟩ := (writes "x").stored fun x getter setter near owns => by
      cases found.symm.trans ((nearest "x" _).mpr ⟨x, near, owns⟩)
    refine ⟨t, (both call).1, (both call).2, ?_, stored.otherObjects ⟨0⟩ (by decide)⟩
    exact (stored.arrived (by decide +kernel)).2
  · have found : s.lookup ⟨2⟩ "w" = some (.data .null false) := by decide +kernel
    obtain ⟨t, stored, both⟩ := (writes "w").stored fun x getter setter near owns => by
      cases found.symm.trans ((nearest "w" _).mpr ⟨x, near, owns⟩)
    exact ⟨t, (both call).1, (stored.kept .null false (by decide +kernel)).1⟩
  · have found : s.lookup ⟨2⟩ "y" = some (.accessor none (some ⟨0⟩)) := by decide +kernel
    obtain ⟨x, near, owns⟩ := (nearest "y" _).mp found
    refine ⟨_, (writes "y").called x none ⟨0⟩ near owns call, ?_, ?_⟩ <;> decide +kernel
  · have found : s.lookup ⟨2⟩ "z" = some (.accessor none none) := by decide +kernel
    obtain ⟨x, near, owns⟩ := (nearest "z" _).mp found
    exact (writes "z").ignored x none near owns call

end ClassLink
