import ClassLink.Proofs.Outlines

/-!
# The places of slots

A slot declares its place or asks for one, and a slot that asks is given the place after the highest
in use, here or further up. So it never shares a place with a slot before it. But a declared place
is in use only once its slot is reached, and a slot further on may declare the very place that was
given away. Places that are declared once are therefore distinct exactly if this does not happen
(`nodup_slotIds_build_iff`), and it can happen: a slot that asks, followed by one that declares the
first place.

Places are numbered without a bound here (`places`). The places that the slots of a table are given
when they are bound (`BindingContext.given`) are those, as long as they fit.
-/

namespace ClassLink

/-! ### Numbering -/

/-- A place that is given to a slot. -/
structure Place where
  number : Nat
  /-- The slot declares it; otherwise it asked for a place. -/
  declared : Bool
deriving DecidableEq, Repr

namespace Trait

/-- The place that a slot declares. -/
def declaredPlace? (t : Trait) : Option UInt32 :=
  match t.declaration with
  | .slot x => if x.slotId = 0 then none else some x.slotId
  | _ => none

/-- The place of a slot, when `used` is the highest place in use. -/
def place? (used : Nat) (t : Trait) : Option Place :=
  match t.declaration with
  | .slot x => some (if x.slotId = 0 then ⟨used + 1, false⟩ else ⟨x.slotId.toNat, true⟩)
  | _ => none

end Trait

/-- The places of the slots among these members, when `used` is the highest place in use. -/
def places : Nat → List Trait → List Place
  | _, [] => []
  | used, t :: ts =>
    match t.place? used with
    | some p => p :: places (max used p.number) ts
    | none => places used ts

/-- A slot that asks is given the next place. -/
theorem Trait.number_of_place? {t : Trait} {used : Nat} {p : Place} (h : t.place? used = some p)
    (asked : p.declared = false) : p.number = used + 1 := by
  unfold place? at h
  split at h
  · obtain rfl := Option.some.inj h
    split at asked
    · simp [*]
    · cases asked
  · cases h

/-- A place that is declared does not depend on those in use. -/
theorem Trait.declaredPlace?_of_place? {t : Trait} {used : Nat} {p : Place}
    (h : t.place? used = some p) :
    t.declaredPlace?.map UInt32.toNat = if p.declared then some p.number else none := by
  unfold place? at h
  unfold declaredPlace?
  split at h
  · obtain rfl := Option.some.inj h
    split <;> simp
  · cases h

theorem Trait.declaredPlace?_of_place?_eq_none {t : Trait} {used : Nat} (h : t.place? used = none) :
    t.declaredPlace? = none := by
  unfold place? at h
  unfold declaredPlace?
  split at h
  · cases h
  · rfl

/-- A slot that asks is given a place that is not in use. -/
theorem lt_of_mem_places {used : Nat} {ts : List Trait} {p : Place} (h : p ∈ places used ts)
    (asked : p.declared = false) : used < p.number := by
  induction ts generalizing used with
  | nil => exact absurd h List.not_mem_nil
  | cons t ts ih =>
    unfold places at h
    split at h
    · rename_i q hq
      rcases List.mem_cons.mp h with rfl | h
      · exact Nat.lt_of_lt_of_eq used.lt_succ_self (Trait.number_of_place? hq asked).symm
      · have := ih h
        omega
    · exact ih h

/-- And its place is beyond those of all slots before it. -/
theorem pairwise_lt_places (used : Nat) (ts : List Trait) :
    (places used ts).Pairwise fun p q => q.declared = false → p.number < q.number := by
  induction ts generalizing used with
  | nil => exact .nil
  | cons t ts ih =>
    unfold places
    split
    · rename_i p _
      refine List.pairwise_cons.mpr ⟨fun q hq asked => ?_, ih _⟩
      have := lt_of_mem_places hq asked
      omega
    · exact ih used

/-- The declared places, in their order. -/
theorem filter_declared_places (used : Nat) (ts : List Trait) :
    ((places used ts).filter (·.declared)).map (·.number) =
      (ts.filterMap Trait.declaredPlace?).map UInt32.toNat := by
  induction ts generalizing used with
  | nil => rfl
  | cons t ts ih =>
    rw [places]
    split
    · rename_i p hp
      have declared := Trait.declaredPlace?_of_place? hp
      by_cases h : p.declared
      · obtain ⟨id, found, same⟩ := Option.map_eq_some_iff.mp (declared.trans (if_pos h))
        simp [h, found, same, ih]
      · have none := Option.map_eq_none_iff.mp (declared.trans (if_neg h))
        simp [h, none, ih]
    · rename_i hp
      simp [Trait.declaredPlace?_of_place?_eq_none hp, ih]

/-- Places are distinct, if those that are declared are, exactly if none is declared that was given
away before. -/
theorem nodup_places_iff {used : Nat} {ts : List Trait}
    (distinct : (ts.filterMap Trait.declaredPlace?).Nodup) :
    ((places used ts).map (·.number)).Nodup ↔ (places used ts).Pairwise fun p q =>
      p.declared = false → q.declared = true → p.number ≠ q.number := by
  have declared : (places used ts).Pairwise fun p q =>
      p.declared = true → q.declared = true → p.number ≠ q.number := by
    rw [← List.pairwise_filter, ← List.pairwise_map, filter_declared_places]
    exact distinct.map fun _ _ => UInt32.toNat_inj.mp
  rw [List.Nodup, List.pairwise_map]
  constructor
  · exact List.Pairwise.imp fun ne _ _ => ne
  · intro apart
    refine ((pairwise_lt_places used ts).and (declared.and apart)).imp ?_
    rintro p q ⟨later, both, given⟩
    cases hq : q.declared with
    | false => exact (later hq).ne
    | true =>
      cases hp : p.declared with
      | false => exact given hp hq
      | true => exact both hp hq

/-! ### Numbering in a table -/

/-- The place of a member that is a slot. -/
def Binding.slotId? (b : Binding) : Option UInt32 := b.slot?.map (·.1)

/-- The places of the slots of a table. -/
def BindingTable.slotIds (t : BindingTable) : List UInt32 :=
  t.entries.filterMap (·.binding.slotId?)

namespace BindingContext

variable (x : BindingContext) (make : Synthesis) (t : Trait) (s : Store)

/-- The place that a member is given, if it is a slot, when `used` is the highest place in use. -/
def given? (used : UInt32) : Option Place :=
  ((x.bind make used t).run s).1.slotId?.map fun id => ⟨id.toNat, t.declaredPlace?.isSome⟩

/-- The places that slots are given while members are added to a table, in this order. -/
def given : BindingTable → List Trait → Store → List Place
  | _, [], _ => []
  | table, t :: ts, s =>
    (x.given? make t s table.slotCount).toList ++
      given ((x.add make table t).run s).1 ts ((x.add make table t).run s).2

theorem number_given? (used : UInt32) : (x.given? make t s used).map (·.number) =
    ((x.bind make used t).run s).1.slotId?.map UInt32.toNat := Option.map_map ..

/-- A place that fits is given as it is numbered. -/
theorem given?_eq_place? {used : UInt32} (fits : ∀ p ∈ t.place? used.toNat, p.number < UInt32.size) :
    x.given? make t s used = t.place? used.toNat := by
  unfold given? bind Trait.place? Trait.declaredPlace?
  cases declared : t.declaration with
  | slot slot =>
    rw [run_bind, get_run, pure_run]
    simp only [Binding.slotId?, Binding.slot?, Option.map_some, slotId]
    split
    · rename_i asks
      have small : used.toNat + 1 < UInt32.size :=
        fits ⟨used.toNat + 1, false⟩ (by simp [Trait.place?, declared, asks])
      have next : (used + 1).toNat = used.toNat + 1 := by
        rw [UInt32.toNat_add]
        exact Nat.mod_eq_of_lt small
      rw [next]
      rfl
    · rfl
  | _ => rfl

/-- The highest place in use grows to the place of a slot. -/
theorem toNat_usedAfter (used : UInt32) (b : Binding) :
    (usedAfter used b).toNat =
      (b.slotId?.map UInt32.toNat).elim used.toNat (max used.toNat ·) := by
  cases b with
  | slot id initial isConst =>
    simp only [usedAfter, Binding.slotId?, Binding.slot?, Option.map_some, Option.elim_some,
      UInt32.lt_iff_toNat_lt]
    split <;> omega
  | _ => rfl

/-- The highest place in use grows to the place that is given. -/
theorem toNat_slotCount_add (table : BindingTable) :
    ((x.add make table t).run s).1.slotCount.toNat =
      (x.given? make t s table.slotCount).elim table.slotCount.toNat
        (max table.slotCount.toNat ·.number) := by
  rw [add_run]
  refine (congrArg UInt32.toNat (BindingTable.slotCount_put ..)).trans ?_
  rw [toNat_usedAfter, ← number_given?]
  cases x.given? make t s table.slotCount <;> rfl

/-- Places that fit are given as they are numbered. -/
theorem given_eq_places {table : BindingTable} {ts : List Trait}
    (fits : ∀ p ∈ places table.slotCount.toNat ts, p.number < UInt32.size) :
    x.given make table ts s = places table.slotCount.toNat ts := by
  induction ts generalizing table s with
  | nil => rfl
  | cons t ts ih =>
    have here : ∀ p ∈ t.place? table.slotCount.toNat, p.number < UInt32.size := fun p hp =>
      fits p (by simp [places, Option.mem_def.mp hp])
    have used := x.toNat_slotCount_add make t s table
    rw [x.given?_eq_place? make t s here] at used
    rw [given, x.given?_eq_place? make t s here]
    cases place : t.place? table.slotCount.toNat with
    | none =>
      simp only [places, place, Option.elim_none] at fits used ⊢
      rw [ih _ (used ▸ fits), used]
      rfl
    | some p =>
      simp only [places, place, Option.elim_some] at fits used ⊢
      rw [ih _ (used ▸ fun q hq => fits q (List.mem_cons_of_mem _ hq)), used]
      rfl

/-- Slots that are added have the places that they are given. -/
theorem slotIds_foldlM_add {traits : List Trait} {table : BindingTable}
    (coherent : table.Coherent)
    (nodup : (Bindings.ids table.entries ++ traits.map Trait.id).Nodup) :
    ((traits.foldlM (x.add make) table).run s).1.slotIds.map UInt32.toNat =
      table.slotIds.map UInt32.toNat ++ (x.given make table traits s).map (·.number) := by
  induction traits generalizing table s with
  | nil => exact (List.append_nil _).symm
  | cons t ts ih =>
    have new : t.id ∉ Bindings.ids table.entries := fun old =>
      (List.nodup_append.mp nodup).2.2 _ old _ List.mem_cons_self rfl
    obtain ⟨next, entries, -⟩ := x.add_of_new make t s coherent new
    have nodup' : (Bindings.ids ((x.add make table t).run s).1.entries ++ ts.map Trait.id).Nodup := by
      rw [x.ids_add_of_new make t s coherent new, List.append_assoc]
      exact nodup
    have slotIds : ((x.add make table t).run s).1.slotIds.map UInt32.toNat =
        table.slotIds.map UInt32.toNat ++
          (x.given? make t s table.slotCount).toList.map (·.number) := by
      rw [← Option.toList_map, number_given?, BindingTable.slotIds, entries,
        List.filterMap_append, List.map_append]
      cases h : ((x.bind make table.slotCount t).run s).1.slotId? <;>
        simp [BindingTable.slotIds, entry, h]
    rw [List.foldlM_cons, run_bind, ih _ next nodup', slotIds, given, List.map_append,
      List.append_assoc]

/-- The slots of a set without repetition are numbered after those further up. -/
theorem slotIds_build {traits : List Trait} (nodup : (traits.map Trait.id).Nodup)
    (fits : ∀ p ∈ places x.start.slotCount.toNat traits, p.number < UInt32.size) :
    ((x.buildBy make traits).run s).1.own.slotIds.map UInt32.toNat =
      (places x.start.slotCount.toNat traits).map (·.number) := by
  rw [← x.given_eq_places make s fits]
  exact x.slotIds_foldlM_add make s x.coherent_start nodup

/-- **When slots have places of their own.** In a set of a valid descriptor, with any tables further
up and with whatever makes functions of bytecode, let every place be declared once and let all
places fit. Then the slots of the table have distinct places exactly if no slot declares a place
that a slot before it was given. -/
theorem nodup_slotIds_build_iff {descriptor : ClassDescriptor}
    (valid : descriptor.validate = .ok ()) (set : TraitSet)
    (distinct : ((descriptor.traits set).filterMap Trait.declaredPlace?).Nodup)
    (fits : ∀ p ∈ places x.start.slotCount.toNat (descriptor.traits set), p.number < UInt32.size) :
    ((x.buildBy make (descriptor.traits set)).run s).1.own.slotIds.Nodup ↔
      (places x.start.slotCount.toNat (descriptor.traits set)).Pairwise fun p q =>
        p.declared = false → q.declared = true → p.number ≠ q.number := by
  rw [← nodup_places_iff distinct,
    ← x.slotIds_build make s (ClassDescriptor.nodup_traits valid set) fits]
  exact (List.nodup_map_iff fun _ _ => UInt32.toNat_inj.mp).symm

end BindingContext

/-! ### Declared and given places -/

namespace Sample

/-- A slot that declares a place, or asks for one. -/
def slotAt (name : String) (slotId : UInt32) : Trait :=
  ⟨.plain name, .slot ⟨slotId, none, none, false⟩⟩

/-- A class with slots. -/
def slotted (slots : List Trait) : ClassDescriptor :=
  { ClassDescriptor.bare "Slotted" with instanceTraits := slots }

end Sample

/-- The first place is taken further up; the slot that asks is followed by one that declares a
place before its own. -/
theorem nodup_slotIds_build_over_one :
    let x := Sample.tableContext "Slotted" (some (Sample.chain [] [Sample.slotK]))
    let descriptor := Sample.slotted [Sample.slotAt "a" 4, Sample.slotAt "b" 0, Sample.slotAt "c" 2]
    places x.start.slotCount.toNat (descriptor.traits .instance) =
        [⟨4, true⟩, ⟨5, false⟩, ⟨2, true⟩] ∧
      ((x.build (descriptor.traits .instance)).run Sample.opened).1.own.slotIds.Nodup := by
  intro x descriptor
  have numbered : places x.start.slotCount.toNat (descriptor.traits .instance) =
      [⟨4, true⟩, ⟨5, false⟩, ⟨2, true⟩] := by decide +kernel
  have valid : descriptor.validate = .ok () := by decide +kernel
  have iff := x.nodup_slotIds_build_iff (synthesize ⟨0⟩) Sample.opened valid .instance
    (by decide +kernel) (by rw [numbered]; decide)
  exact ⟨numbered, iff.mpr (by rw [numbered]; decide)⟩

/-- A slot asks for a place and is given the first one, which the next slot declares: no place is
declared twice, and two slots share one. -/
theorem slotIds_build_shared :
    let x := Sample.tableContext "Slotted" none
    let descriptor := Sample.slotted [Sample.slotAt "a" 0, Sample.slotAt "b" 1]
    descriptor.validate = .ok () ∧
      (descriptor.traits .instance).filterMap Trait.declaredPlace? = [1] ∧
      x.start.slotCount < 1 ∧
      (∀ p ∈ places x.start.slotCount.toNat (descriptor.traits .instance), p.number < UInt32.size) ∧
      ((x.build (descriptor.traits .instance)).run Sample.opened).1.own.slotIds = [1, 1] := by
  refine ⟨?_, ?_, ?_, ?_, ?_⟩ <;> decide +kernel

end ClassLink
