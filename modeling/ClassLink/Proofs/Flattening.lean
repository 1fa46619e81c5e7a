import ClassLink.Proofs.Shadowing

/-!
# Flattening and looking up agree

A chain of tables is read in two ways. Looking up goes from the nearest table upwards and stops at
the first that has the member. Flattening goes the other way, and writes what a nearer table has
over what is there. The two come to the same: the flattened chain lists each identity once, with
the entry that the nearest table has for it (`Bindings.nearest?`). What is listed of a chain keeps
its order in every longer chain.
-/

namespace ClassLink

namespace Bindings

variable {es old : List BindingEntry} {e : BindingEntry} {id : String × MemberKind}

/-! ### Entries written over others -/

theorem find_eq_none_iff : find es id = none ↔ id ∉ ids es := by
  simp [find, ids]

/-- Of entries that differ in identity each is found under its own. -/
theorem find_eq_some_iff (nodup : (ids es).Nodup) : find es e.id = some e ↔ e ∈ es := by
  refine ⟨List.mem_of_find?_eq_some, fun mem => ?_⟩
  induction es with
  | nil => exact absurd mem List.not_mem_nil
  | cons x xs ih =>
    obtain ⟨apart, rest⟩ := List.nodup_cons.mp (show (x.id :: ids xs).Nodup from nodup)
    rw [find_cons]
    rcases List.mem_cons.mp mem with rfl | mem
    · rw [if_pos rfl]
    · have ne : x.id ≠ e.id := fun same => apart (same ▸ List.mem_map_of_mem mem)
      rw [if_neg ne, ih rest mem]

/-- Entries that differ in identity are found where they were written over others. -/
theorem find_foldl_overlay (nodup : (ids es).Nodup) (old : List BindingEntry)
    (id : String × MemberKind) :
    find (es.foldl overlay old) id = (find es id).or (find old id) := by
  induction es generalizing old with
  | nil => rfl
  | cons x xs ih =>
    obtain ⟨apart, rest⟩ := List.nodup_cons.mp (show (x.id :: ids xs).Nodup from nodup)
    rw [List.foldl_cons, ih rest, find_overlay, find_cons]
    by_cases same : x.id = id
    · rw [if_pos same, if_pos same, find_eq_none_iff.mpr (same ▸ apart)]
      rfl
    · rw [if_neg same, if_neg same]

/-- New identities come last. -/
theorem ids_prefix_foldl_overlay (es old : List BindingEntry) :
    ids old <+: ids (es.foldl overlay old) := by
  induction es generalizing old with
  | nil => exact List.prefix_rfl
  | cons x xs ih =>
    refine List.IsPrefix.trans ?_ (ih (overlay old x))
    rw [ids_overlay]
    split
    · exact List.prefix_rfl
    · exact List.prefix_append ..

/-! ### The nearest entry -/

/-- The entry that the nearest table has for an identity. -/
def nearest? (b : Bindings) (id : String × MemberKind) : Option BindingEntry :=
  b.tables.findSome? fun t => find t.entries id

variable {b p : Bindings}

theorem nodup_flattenTables (ts : List BindingTable) : (ids (flattenTables ts)).Nodup := by
  rw [flattenTables_eq]
  exact nodup_ids_foldl_overlay (show (ids []).Nodup from List.nodup_nil) _

theorem find_flattenTables {ts : List BindingTable} (coherent : ∀ t ∈ ts, t.Coherent)
    (id : String × MemberKind) :
    find (flattenTables ts) id = ts.findSome? fun t => find t.entries id := by
  induction ts with
  | nil => rfl
  | cons t ts ih =>
    have rest := ih fun u hu => coherent u (List.mem_cons_of_mem _ hu)
    rw [flattenTables, find_foldl_overlay (coherent t List.mem_cons_self).nodup, rest,
      List.findSome?_cons]
    cases find t.entries id <;> rfl

/-- The flattened chain has the nearest entry of each identity. -/
theorem find_flattened (h : b.Built) (id : String × MemberKind) :
    find b.flattened id = b.nearest? id :=
  find_flattenTables h.coherent id

theorem mem_flattened_iff (h : b.Built) : e ∈ b.flattened ↔ b.nearest? e.id = some e := by
  rw [← find_flattened h]
  exact (find_eq_some_iff (nodup_flattenTables b.tables)).symm

/-- Looking up finds the binding of the nearest entry. -/
theorem lookup_eq_nearest (h : b.Built) (key : String) (kind : MemberKind) :
    b.lookup key kind = (b.nearest? (key, kind)).map (·.binding) := by
  have coherent := h.coherent
  rw [lookup, nearest?]
  generalize b.tables = ts at coherent
  induction ts with
  | nil => rfl
  | cons t ts ih =>
    have rest := ih fun u hu => coherent u (List.mem_cons_of_mem _ hu)
    rw [List.findSome?_cons, List.findSome?_cons,
      (coherent t List.mem_cons_self).lookup_eq, rest]
    cases find t.entries (key, kind) <;> rfl

/-! ### The tables further up -/

theorem tables_of_parent? (h : b.parent? = some p) : b.tables = b.own :: p.tables := by
  obtain ⟨own, _ | ⟨t, ts⟩⟩ := b
  · cases h
  · obtain rfl := Option.some.inj h
    rfl

/-- What is listed further up is listed first, in the same order. -/
theorem ids_prefix_flattened (h : b.parent? = some p) : ids p.flattened <+: ids b.flattened := by
  rw [flattened, flattened, tables_of_parent? h]
  exact ids_prefix_foldl_overlay ..

end Bindings

namespace BindingContext

variable (x : BindingContext) (make : Synthesis) (traits : List Trait) (s : Store)

theorem parent?_buildBy : ((x.buildBy make traits).run s).1.parent? = x.parent := by
  obtain ⟨_, _, _, _, _, parent⟩ := x
  cases parent <;> rfl

/-- Whether an entry overrides another is asked of the tables further up, when it is written. -/
theorem overrides_foldlM {table : BindingTable}
    (asked : ∀ e ∈ table.entries, e.overrides = x.isInherited e.key e.kind) :
    ∀ e ∈ ((traits.foldlM (x.add make) table).run s).1.entries,
      e.overrides = x.isInherited e.key e.kind := by
  induction traits generalizing table s with
  | nil => exact asked
  | cons t ts ih =>
    rw [List.foldlM_cons, run_bind]
    refine ih _ fun e he => ?_
    rw [add_run] at he
    rcases BindingTable.mem_of_mem_put he with old | rfl
    · exact asked e old
    · rfl

theorem overrides_buildBy : ∀ e ∈ ((x.buildBy make traits).run s).1.entries,
    e.overrides = x.isInherited e.key e.kind :=
  x.overrides_foldlM make traits s fun _ he => absurd he List.not_mem_nil

end BindingContext

namespace Bindings

variable {b : Bindings}

/-- An entry overrides another exactly if the tables further up have the member. -/
theorem overrides_iff (h : b.Built) {e : BindingEntry} (he : e ∈ b.entries) :
    e.overrides = true ↔ ∃ p, b.parent? = some p ∧ (p.lookup e.key e.kind).isSome := by
  obtain ⟨x, make, traits, s, rfl⟩ :
      ∃ x make traits s, b = ((BindingContext.buildBy x make traits).run s).1 := by
    cases h with
    | root => exact ⟨_, _, _, _, rfl⟩
    | derived => exact ⟨_, _, _, _, rfl⟩
  rw [x.overrides_buildBy make traits s e he, x.parent?_buildBy, BindingContext.isInherited]
  cases x.parent <;> simp

/-- **Flattening and looking up agree.** The flattened chain lists each member once, namely the
entry of the nearest table that has it, whose binding is the one that is looked up; it begins with
the members listed further up, and the entries that have one there are marked. -/
theorem flattened_agrees (h : b.Built) :
    (ids b.flattened).Nodup ∧
    (∀ e, e ∈ b.flattened ↔ b.nearest? e.id = some e) ∧
    (∀ key kind, b.lookup key kind = (find b.flattened (key, kind)).map (·.binding)) ∧
    (∀ p, b.parent? = some p → ids p.flattened <+: ids b.flattened) ∧
    ∀ e ∈ b.entries,
      (e.overrides = true ↔ ∃ p, b.parent? = some p ∧ (p.lookup e.key e.kind).isSome) := by
  refine ⟨nodup_flattenTables b.tables, fun e => mem_flattened_iff h, fun key kind => ?_,
    fun p hp => ids_prefix_flattened hp, fun e he => overrides_iff h he⟩
  rw [find_flattened h, lookup_eq_nearest h]

end Bindings

/-- A method that is declared twice and then overridden stays first, and a getter comes last. -/
theorem flattened_agrees_twice :
    let b := Sample.chain [Sample.methodK 1, Sample.slotK, Sample.methodK 2]
      [Sample.getterK 3, Sample.methodK 4]
    b.Built ∧ Bindings.ids b.flattened = [("k", .method), ("k", .slot), ("k", .getter)] ∧
      b.lookup "k" .method = some (.method ⟨3⟩) ∧
      (Bindings.find b.flattened ("k", .method)).map (·.binding) = some (.method ⟨3⟩) ∧
      b.entries.map (·.overrides) = [false, true] := by
  intro b
  have agrees := Bindings.flattened_agrees (Sample.built_chain
    [Sample.methodK 1, Sample.slotK, Sample.methodK 2] [Sample.getterK 3, Sample.methodK 4])
  have found : b.lookup "k" .method = some (.method ⟨3⟩) := by decide +kernel
  exact ⟨Sample.built_chain _ _, by decide +kernel, found, (agrees.2.2.1 _ _).symm.trans found,
    by decide +kernel⟩

end ClassLink
