import ClassLink.Binding.Table
import Mathlib.Data.List.Nodup

/-!
# Binding tables as finite maps

The entries of a table are told apart by their *identity*, the key with the kind. Writing an
entry over a list of entries (`overlay`) keeps the identities distinct and changes what one of
them means. A table is *coherent* if its index finds each identity where it first stands; then
writing to the table is writing over its entries, and looking up is searching them.
-/

namespace ClassLink

namespace Bindings

variable {es : List BindingEntry} {e : BindingEntry}

/-- The identities of a list of entries. -/
def ids (es : List BindingEntry) : List (String × MemberKind) := es.map (·.id)

/-- The entry of an identity. -/
def find (es : List BindingEntry) (id : String × MemberKind) : Option BindingEntry :=
  es.find? (·.id == id)

theorem ids_overlay (es : List BindingEntry) (e : BindingEntry) :
    ids (overlay es e) = if e.id ∈ ids es then ids es else ids es ++ [e.id] := by
  induction es with
  | nil => rfl
  | cons x xs ih =>
    by_cases h : x.id = e.id
    · simp [overlay, ids, h]
    · have ne : e.id ≠ x.id := fun k => h k.symm
      simp only [overlay, if_neg h]
      show x.id :: ids (overlay xs e) = if e.id ∈ x.id :: ids xs then _ else _
      rw [ih]
      simp only [List.mem_cons, or_iff_right ne]
      split <;> rfl

theorem nodup_ids_overlay (h : (ids es).Nodup) (e : BindingEntry) : (ids (overlay es e)).Nodup := by
  rw [ids_overlay]
  split
  · exact h
  · rename_i new
    exact List.nodup_append.mpr ⟨h, List.nodup_singleton _, fun a ha b hb => by
      rintro rfl
      exact new (List.mem_singleton.mp hb ▸ ha)⟩

theorem find_cons (x : BindingEntry) (xs : List BindingEntry) (id : String × MemberKind) :
    find (x :: xs) id = if x.id = id then some x else find xs id := by
  by_cases h : x.id = id <;> simp [find, h]

/-- An entry written over others is found under its identity, and they under theirs. -/
theorem find_overlay (es : List BindingEntry) (e : BindingEntry) (id : String × MemberKind) :
    find (overlay es e) id = if e.id = id then some e else find es id := by
  induction es with
  | nil => by_cases h : e.id = id <;> simp [overlay, find, h]
  | cons x xs ih =>
    by_cases same : x.id = e.id
    · rw [overlay, if_pos same, find_cons, find_cons, same]
      split <;> rfl
    · rw [overlay, if_neg same, find_cons, find_cons, ih]
      by_cases h : x.id = id
      · rw [if_pos h, if_pos h, if_neg fun k => same (h.trans k.symm)]
      · rw [if_neg h, if_neg h]

/-- A new identity comes last. -/
theorem overlay_of_notMem (h : e.id ∉ ids es) : overlay es e = es ++ [e] := by
  induction es with
  | nil => rfl
  | cons x xs ih =>
    obtain ⟨head, tail⟩ := not_or.mp (mt List.mem_cons.mpr (show e.id ∉ x.id :: ids xs from h))
    rw [overlay, if_neg (Ne.symm head), ih tail, List.cons_append]

/-- An entry replaces the first one of its identity. -/
theorem overlay_of_idxOf? {i : Nat} (h : (ids es).idxOf? e.id = some i) :
    overlay es e = es.set i e := by
  induction es generalizing i with
  | nil => simp [ids] at h
  | cons x xs ih =>
    rw [show ids (x :: xs) = x.id :: ids xs from rfl, List.idxOf?_cons] at h
    by_cases same : x.id = e.id
    · obtain rfl : i = 0 := by simpa [same] using h.symm
      rw [overlay, if_pos same, List.set_cons_zero]
    · obtain ⟨j, hj, rfl⟩ : ∃ j, (ids xs).idxOf? e.id = some j ∧ j + 1 = i := by
        simpa [same] using h
      rw [overlay, if_neg same, ih hj, List.set_cons_succ]

end Bindings

namespace BindingTable

open Bindings (overlay ids find)

theorem slotCount_put (t : BindingTable) (e : BindingEntry) :
    (t.put e).slotCount = t.slotCount := by
  unfold put
  split <;> rfl

theorem mem_of_mem_put {t : BindingTable} {e x : BindingEntry} (h : x ∈ (t.put e).entries) :
    x ∈ t.entries ∨ x = e := by
  unfold put at h
  split at h
  · exact List.mem_or_eq_of_mem_set h
  · simpa using h

/-- The index of a table finds each identity at its place, and no identity has two. -/
structure Coherent (t : BindingTable) : Prop where
  index : ∀ id, t.index.lookup id = (ids t.entries).idxOf? id
  nodup : (ids t.entries).Nodup

theorem coherent_empty (set : TraitSet) (className : String) (used : UInt32) :
    (empty set className used).Coherent :=
  ⟨fun _ => rfl, List.nodup_nil⟩

namespace Coherent

variable {t : BindingTable}

/-- The highest place in use says nothing of the index. -/
theorem withSlotCount (h : t.Coherent) (used : UInt32) :
    ({ t with slotCount := used } : BindingTable).Coherent :=
  ⟨h.index, h.nodup⟩

/-- Writing to a table is writing over its entries. -/
theorem entries_put (h : t.Coherent) (e : BindingEntry) : (t.put e).entries = overlay t.entries e := by
  unfold put
  rw [h.index]
  cases found : (ids t.entries).idxOf? e.id with
  | some i => exact (Bindings.overlay_of_idxOf? found).symm
  | none =>
    rw [List.idxOf?_eq_none_iff] at found
    exact (Bindings.overlay_of_notMem found).symm

theorem put (h : t.Coherent) (e : BindingEntry) : (t.put e).Coherent := by
  refine ⟨fun id => ?_, h.entries_put e ▸ Bindings.nodup_ids_overlay h.nodup e⟩
  rw [h.entries_put, Bindings.ids_overlay, BindingTable.put, h.index e.id]
  cases found : (ids t.entries).idxOf? e.id with
  | some i =>
    have old : e.id ∈ ids t.entries := by
      by_contra new
      rw [List.idxOf?_eq_none_iff.mpr new] at found
      cases found
    rw [if_pos old, ← h.index]
  | none =>
    have new : e.id ∉ ids t.entries := List.idxOf?_eq_none_iff.mp found
    have size : (ids t.entries).length = t.entries.length := List.length_map ..
    rw [if_neg new]
    simp only [List.lookup_append, h.index, List.idxOf?, List.findIdx?_append]
    by_cases same : e.id = id
    · simp [same, size]
    · have other : (id == e.id) = false := beq_false_of_ne (Ne.symm same)
      simp [same, List.lookup_cons, other]

/-- Looking up is searching the entries. -/
theorem lookup_eq (h : t.Coherent) (key : String) (kind : MemberKind) :
    t.lookup key kind = (find t.entries (key, kind)).map (·.binding) := by
  rw [lookup, h.index, find, List.find?_eq_bind_findIdx?_getElem?, Option.map_bind]
  rw [List.idxOf?, ids, List.findIdx?_map]
  rfl

/-- An entry that is written is found, and the others are as they were. -/
theorem lookup_put (h : t.Coherent) (e : BindingEntry) (key : String) (kind : MemberKind) :
    (t.put e).lookup key kind = if e.id = (key, kind) then some e.binding else t.lookup key kind := by
  rw [(h.put e).lookup_eq, h.entries_put, Bindings.find_overlay, h.lookup_eq]
  split <;> rfl

end Coherent

end BindingTable

end ClassLink
