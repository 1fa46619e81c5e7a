import ClassLink.Object.Property
import Mathlib.Data.List.Nodup

/-!
# Keys that are listed

The map of a table and its list of keys are written apart, and much relies on their agreement:
appending members asks the list which keys are there, and enumeration goes through the list and asks
the map for each key. A table *agrees* if its list has every key of the map, once each, and no other
(`PropertyTable.Agrees`). A table without keys agrees, and every operation makes an agreeing table
of an agreeing one.

For storing a value there is a condition. It lists the key unless a data property is there, so over
an accessor it would list a key a second time (`Agrees.store`). Nothing in the table prevents this:
a write looks for an accessor before, on the whole chain of the object. -/

namespace ClassLink

namespace PropertyTable

variable {t u : PropertyTable} {key k : String} {p : Property} {v w : Value} {shown : Bool}

/-- The keys that are listed are those of the map, and each is listed once. -/
structure Agrees (t : PropertyTable) : Prop where
  nodup : t.keys.Nodup
  mem_iff : ∀ key, key ∈ t.keys ↔ t.contains key = true

theorem contains_eq_false_iff : t.contains key = false ↔ t.get? key = none := by
  rw [contains, Option.isSome_eq_false_iff, Option.isNone_iff_eq_none]

theorem contains_of_get? (h : t.get? key = some p) : t.contains key = true := by
  rw [contains, h]
  rfl

/-! ### The operations in terms of one -/

/-- A key that is present is written in its place. -/
theorem put_of_contains (h : t.contains key = true) (p : Property) :
    t.put key p = { t with properties := putEntry key p t.properties } := by
  rw [put, if_pos h]

/-- A key that is absent comes last. -/
theorem put_of_absent (h : t.get? key = none) (p : Property) :
    t.put key p = ⟨putEntry key p t.properties, t.keys ++ [key]⟩ := by
  rw [put, if_neg (by rw [contains_eq_false_iff.mpr h]; exact Bool.false_ne_true)]

theorem setEnumerable_of_data (h : t.get? key = some (.data v shown)) (on : Bool) :
    t.setEnumerable key on = t.put key (.data v on) := by
  rw [setEnumerable, h, put_of_contains (contains_of_get? h)]

theorem store_of_data (h : t.get? key = some (.data w shown)) (v : Value) :
    t.store key v = t.put key (.data v shown) := by
  rw [store, h, put_of_contains (contains_of_get? h)]

theorem store_of_none (h : t.get? key = none) (v : Value) :
    t.store key v = t.put key (.data v true) := by
  rw [store, h, put_of_absent h]

/-- Under a key that means no accessor a value is stored as if it were defined. -/
theorem exists_store_eq_put (free : ∀ getter setter, t.get? key ≠ some (.accessor getter setter))
    (v : Value) : ∃ p, t.store key v = t.put key p := by
  cases h : t.get? key with
  | none => exact ⟨_, store_of_none h v⟩
  | some p =>
    cases p with
    | data w shown => exact ⟨_, store_of_data h v⟩
    | accessor getter setter => exact absurd h (free getter setter)

theorem setEnumerable_eq_or (t : PropertyTable) (key : String) (on : Bool) :
    t.setEnumerable key on = t ∨
      t.contains key = true ∧ ∃ p, t.setEnumerable key on = t.put key p := by
  cases h : t.get? key with
  | none => exact .inl (by rw [setEnumerable, h])
  | some p =>
    cases p with
    | data v shown => exact .inr ⟨contains_of_get? h, _, setEnumerable_of_data h on⟩
    | accessor => exact .inl (by rw [setEnumerable, h])

/-! ### Which keys are there -/

theorem contains_put (t : PropertyTable) (key k : String) (p : Property) :
    (t.put key p).contains k = (decide (k = key) || t.contains k) := by
  rw [contains, get?_put]
  by_cases same : k = key <;> simp [same, contains]

theorem contains_erase (t : PropertyTable) (key k : String) :
    (t.erase key).contains k = (decide (k ≠ key) && t.contains k) := by
  rw [contains, get?_erase]
  by_cases same : k = key <;> simp [same, contains]

theorem keys_put (t : PropertyTable) (key : String) (p : Property) :
    (t.put key p).keys = if t.contains key then t.keys else t.keys ++ [key] := rfl

namespace Agrees

theorem empty : PropertyTable.empty.Agrees :=
  ⟨List.nodup_nil, fun _ => by simp [PropertyTable.empty, contains, get?]⟩

variable (h : t.Agrees)
include h

theorem contains_eq (key : String) : t.contains key = decide (key ∈ t.keys) := by
  rw [Bool.eq_iff_iff, decide_eq_true_eq, h.mem_iff]

theorem notMem_iff : key ∉ t.keys ↔ t.get? key = none := by
  rw [← contains_eq_false_iff, h.contains_eq, decide_eq_false_iff_not]

theorem put (key : String) (p : Property) : (t.put key p).Agrees := by
  cases present : t.contains key with
  | true =>
    have keys : (t.put key p).keys = t.keys := by rw [keys_put, if_pos present]
    refine ⟨keys ▸ h.nodup, fun k => ?_⟩
    rw [keys, contains_put, h.mem_iff]
    by_cases same : k = key <;> simp [same, present]
  | false =>
    have keys : (t.put key p).keys = t.keys ++ [key] := by
      rw [keys_put, present]
      rfl
    have new : key ∉ t.keys := h.notMem_iff.mpr (contains_eq_false_iff.mp present)
    refine ⟨?_, fun k => ?_⟩
    · rw [keys]
      exact List.nodup_append.mpr ⟨h.nodup, List.nodup_singleton _, fun x hx y hy same =>
        new (List.mem_singleton.mp hy ▸ same ▸ hx)⟩
    · rw [keys, contains_put, List.mem_append, h.mem_iff, List.mem_singleton]
      by_cases same : k = key <;> simp [same]

theorem keys_erase (key : String) : (t.erase key).keys = t.keys.filter (· ≠ key) := by
  rw [erase]
  split
  · rfl
  · rename_i absent
    refine (List.filter_eq_self.mpr fun k hk => ?_).symm
    rw [decide_eq_true_eq]
    rintro rfl
    exact absent ((h.mem_iff k).mp hk)

theorem erase (key : String) : (t.erase key).Agrees := by
  refine ⟨h.keys_erase key ▸ h.nodup.filter _, fun k => ?_⟩
  rw [h.keys_erase, contains_erase, List.mem_filter, h.mem_iff]
  simp [and_comm]

theorem setEnumerable (key : String) (on : Bool) : (t.setEnumerable key on).Agrees := by
  rcases t.setEnumerable_eq_or key on with same | ⟨-, p, put⟩
  · rw [same]
    exact h
  · rw [put]
    exact h.put key p

/-- A value is stored under a key that means no accessor. -/
theorem store (free : ∀ getter setter, t.get? key ≠ some (.accessor getter setter)) (v : Value) :
    (t.store key v).Agrees := by
  obtain ⟨p, put⟩ := exists_store_eq_put free v
  rw [put]
  exact h.put key p

end Agrees

/-- Under an accessor the key would be listed twice. -/
example : ((empty.put "k" (.accessor none none)).store "k" .null).keys = ["k", "k"] := by decide

end PropertyTable

end ClassLink
