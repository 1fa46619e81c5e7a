import ClassLink.Proofs.Flattening

/-!
# Declared members and their entries

A table replaces an entry without a word when a member is declared again, so a member would be lost
if a descriptor could be accepted that repeats one. The check of the descriptor and the table have
their own ways to tell members apart, by labels and by identities, and they agree: a set of an
accepted descriptor has one entry for each of its members, in the order of declaration, and each is
found under its key and kind. A descriptor that is not accepted is rejected for an empty native
identifier or for the first member that it repeats.
-/

namespace ClassLink

namespace Bindings

/-- Entries of new identities come last. -/
theorem foldl_overlay_of_nodup {es old : List BindingEntry} (nodup : (ids old ++ ids es).Nodup) :
    es.foldl overlay old = old ++ es := by
  induction es generalizing old with
  | nil => exact (List.append_nil old).symm
  | cons e es ih =>
    have new : e.id ∉ ids old := fun mem =>
      (List.nodup_append.mp nodup).2.2 _ mem _ List.mem_cons_self rfl
    have nodup' : (ids (old ++ [e]) ++ ids es).Nodup := by
      rw [ids, List.map_append, List.append_assoc]
      exact nodup
    rw [List.foldl_cons, overlay_of_notMem new, ih nodup', List.append_assoc, List.singleton_append]

end Bindings

/-- An entry of a table is found under its key and kind. -/
theorem BindingTable.Coherent.lookup_of_mem {t : BindingTable} (h : t.Coherent) {e : BindingEntry}
    (he : e ∈ t.entries) : t.lookup e.key e.kind = some e.binding := by
  rw [h.lookup_eq, show (e.key, e.kind) = e.id from rfl, (Bindings.find_eq_some_iff h.nodup).mpr he]
  rfl

namespace BindingContext

variable {x : BindingContext} {ts : List Trait}

/-- Members that the table does not have come last, one entry for each. -/
theorem foldlM_add_of_new (make : Synthesis) {table : BindingTable} (coherent : table.Coherent)
    (nodup : (Bindings.ids table.entries ++ ts.map Trait.id).Nodup) (s : Store) :
    ((ts.foldlM (x.add make) table).run s).1.Coherent ∧
      ∃ es, ((ts.foldlM (x.add make) table).run s).1.entries = table.entries ++ es ∧
        List.Forall₂ x.IsMade ts es := by
  obtain ⟨coherent', es, entries, mades⟩ := x.foldlM_add_overlays make ts coherent s
  rw [← ids_of_isMade mades] at nodup
  exact ⟨coherent', es, entries.trans (Bindings.foldl_overlay_of_nodup nodup), mades⟩

end BindingContext

/-- The entry of a declared member: it has the key, the kind and the name of the member, and it is
what the table finds under the key and the kind. -/
structure Bindings.IsEntryOf (b : Bindings) (t : Trait) (e : BindingEntry) : Prop where
  key : e.key = t.key
  kind : e.kind = t.kind
  name : e.name = t.name
  found : b.lookupOwn t.key t.kind = some e.binding

/-- A set that repeats no member has one entry for each. -/
theorem BindingContext.isEntryOf_buildBy {ts : List Trait} (nodup : (ts.map Trait.id).Nodup)
    (x : BindingContext) (make : Synthesis) (s : Store) :
    List.Forall₂ ((x.buildBy make ts).run s).1.IsEntryOf ts
      ((x.buildBy make ts).run s).1.entries := by
  obtain ⟨coherent, es, entries, mades⟩ := foldlM_add_of_new make x.coherent_start nodup s
  set table := ((ts.foldlM (x.add make) x.start).run s).1
  obtain rfl : table.entries = es := entries
  rw [List.forall₂_iff_zip] at mades ⊢
  refine ⟨mades.1, fun {t e} pair => ?_⟩
  obtain ⟨b, kind, rfl⟩ := mades.2 pair
  exact ⟨rfl, kind, rfl, kind ▸ coherent.lookup_of_mem (List.of_mem_zip pair).2⟩

/-- **No member is lost.** Let a descriptor be accepted. Then a table that is built from one of its
sets, over any tables further up, with any holders and with whatever makes functions of bytecode,
has one entry for each member, in the order of declaration. Any other descriptor is rejected for one
finding: that its native identifier is empty or, if it is not, the first repeated member of the
static set or else of the other one; and there is such a member exactly if one of the sets repeats a
key with a kind. -/
theorem ClassDescriptor.isEntryOf_build_or_rejected (d : ClassDescriptor) :
    (d.validate = .ok () → ∀ (set : TraitSet) (x : BindingContext) (make : Synthesis) (s : Store),
      let b := ((x.buildBy make (d.traits set)).run s).1
      List.Forall₂ b.IsEntryOf (d.traits set) b.entries) ∧
    (∀ e, d.validate = .error e ↔
      (d.nativeId = some "" ∧ e = .emptyNativeId d.display) ∨
        d.nativeId ≠ some "" ∧
          ∃ t, d.IsRepeat t ∧ e = .duplicateTrait t.name.display t.kind d.display) ∧
    ((∃ t, d.IsRepeat t) ↔ ∃ set, ¬ ((d.traits set).map Trait.id).Nodup) :=
  ⟨fun valid set x make s => x.isEntryOf_buildBy (nodup_traits valid set) make s,
    fun _ => validate_eq_error_iff, exists_isRepeat_iff⟩

/-! ### One name in many ways -/

namespace Sample

/-- A class that declares one name as an accessor, in a namespace of its own, and in both sets. -/
def manifold : ClassDescriptor :=
  { ClassDescriptor.bare "Manifold" with
    staticTraits := [methodK 1]
    instanceTraits :=
      [getterK 2, ⟨⟨⟨.private, "Manifold"⟩, "k"⟩, .getter (.bytecode 3 none 0)⟩, setterK 4] }

/-- A class that repeats a member in either set. -/
def repetitive : ClassDescriptor :=
  { manifold with
    staticTraits := [slotK, getterK 1, slotK, getterK 1]
    instanceTraits := [methodK 2, methodK 3] }

/-- Makes no new function: it gives every method the one that is there. -/
def reusing : Synthesis := fun _ _ _ => pure ⟨0⟩

end Sample

/-- All members have entries of their own, over a table that has the name as well, though all of them
are given one function. The other class is rejected for the first member that its static set
repeats. -/
theorem isEntryOf_build_or_rejected_manifold :
    let x := Sample.tableContext "Manifold" (some (Sample.chain [Sample.slotK] [Sample.getterK 9]))
    let b := ((x.buildBy Sample.reusing (Sample.manifold.traits .instance)).run Sample.opened).1
    Sample.manifold.validate = .ok () ∧
      List.Forall₂ b.IsEntryOf (Sample.manifold.traits .instance) b.entries ∧
      b.entries.map (fun e => (e.id, e.binding)) =
        [(("k", .getter), .getter ⟨0⟩), (("private$Manifold::k", .getter), .getter ⟨0⟩),
          (("k", .setter), .setter ⟨0⟩)] ∧
      Sample.repetitive.validate = .error (.duplicateTrait "k" .slot "Manifold") := by
  intro x b
  have valid : Sample.manifold.validate = .ok () := by decide +kernel
  have repeats : Sample.repetitive.IsRepeat Sample.slotK :=
    .inl ⟨[Sample.slotK, Sample.getterK 1], [Sample.getterK 1], rfl, by decide +kernel,
      by decide +kernel⟩
  refine ⟨valid, Sample.manifold.isEntryOf_build_or_rejected.1 valid .instance x Sample.reusing
    Sample.opened, by decide +kernel, ?_⟩
  exact (Sample.repetitive.isEntryOf_build_or_rejected.2.1 _).mpr
    (.inr ⟨by decide, Sample.slotK, repeats, rfl⟩)

end ClassLink
