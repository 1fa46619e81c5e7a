import ClassLink.Proofs.SlotPlaces
import Mathlib.Order.Bounds.Basic
import Mathlib.Order.MinMax

/-!
# The highest place in use

A table keeps the highest place in use, which starts as that of the table further up and grows to
the place of every slot that is bound, also of one that a later declaration of the same member
replaces. So it bounds the places of all slots of the chain (`Bindings.Built.le_slotCount`), and a
slot that asks for a place, which is given the next one, stands beyond every slot that was bound
before it and every slot further up.

This holds in any order of places that are declared and places that are asked for; only the last
part needs that the places fit.
-/

namespace ClassLink

namespace BindingContext

variable {x : BindingContext} {make : Synthesis} {t : Trait} {ts : List Trait} {s : Store}
  {table : BindingTable}

/-- The highest place in use is the greatest of the one that was in use and those that are given. -/
theorem isGreatest_slotCount (x : BindingContext) (make : Synthesis) (table : BindingTable)
    (ts : List Trait) (s : Store) :
    IsGreatest (insert table.slotCount.toNat {n | ∃ p ∈ x.given make table ts s, p.number = n})
      ((ts.foldlM (x.add make) table).run s).1.slotCount.toNat := by
  induction ts generalizing table s with
  | nil =>
    refine ⟨.inl rfl, ?_⟩
    rintro n (rfl | ⟨p, hp, -⟩)
    · exact le_rfl
    · exact absurd hp List.not_mem_nil
  | cons t ts ih =>
    have used := x.toNat_slotCount_add make t s table
    have rest := ih ((x.add make table t).run s).1 ((x.add make table t).run s).2
    rw [List.foldlM_cons, run_bind, given]
    cases place : x.given? make t s table.slotCount with
    | none =>
      rw [place, Option.elim_none] at used
      rw [← used]
      exact rest
    | some p =>
      rw [place, Option.elim_some] at used
      obtain ⟨mem, bound⟩ := rest
      have le := used.ge.trans (bound (.inl rfl))
      refine ⟨?_, ?_⟩
      · rcases mem with last | ⟨q, hq, same⟩
        · rw [last, used]
          rcases max_choice table.slotCount.toNat p.number with old | new
          · exact .inl old
          · exact .inr ⟨p, List.mem_cons_self, new.symm⟩
        · exact .inr ⟨q, List.mem_cons_of_mem _ hq, same⟩
      · rintro n (rfl | ⟨q, hq, rfl⟩)
        · exact (le_max_left ..).trans le
        · rcases List.mem_cons.mp hq with rfl | hq
          · exact (le_max_right ..).trans le
          · exact bound (.inr ⟨q, hq, rfl⟩)

/-- The slots of the table have places that they were given. -/
theorem mem_given_of_slotIds {id : UInt32}
    (h : id ∈ ((ts.foldlM (x.add make) table).run s).1.slotIds) :
    id ∈ table.slotIds ∨ ∃ p ∈ x.given make table ts s, p.number = id.toNat := by
  induction ts generalizing table s with
  | nil => exact .inl h
  | cons t ts ih =>
    rw [List.foldlM_cons, run_bind] at h
    rcases ih h with old | ⟨p, hp, same⟩
    · obtain ⟨e, he, place⟩ := List.mem_filterMap.mp old
      rw [add_run] at he
      rcases BindingTable.mem_of_mem_put he with old | rfl
      · exact .inl (List.mem_filterMap.mpr ⟨e, old, place⟩)
      · have here : x.given? make t s table.slotCount = some ⟨id.toNat, t.declaredPlace?.isSome⟩ :=
          Option.map_eq_some_iff.mpr ⟨id, place, rfl⟩
        rw [given, here]
        exact .inr ⟨_, List.mem_append_left _ (List.mem_singleton_self _), rfl⟩
    · exact .inr ⟨p, List.mem_append_right _ hp, same⟩

/-- The highest place in use further up. -/
theorem toNat_slotCount_start (x : BindingContext) :
    x.start.slotCount.toNat = x.parent.elim 0 (·.slotCount.toNat) := by
  obtain ⟨_, _, _, _, _, parent⟩ := x
  cases parent <;> rfl

variable {traits : List Trait}

/-- The highest place in use further up stays in use. -/
theorem start_le_slotCount_build (x : BindingContext) (make : Synthesis) (traits : List Trait)
    (s : Store) :
    x.start.slotCount.toNat ≤ ((x.buildBy make traits).run s).1.slotCount.toNat :=
  (x.isGreatest_slotCount make x.start traits s).2 (.inl rfl)

/-- The highest place in use bounds the places of the table and, if it did so further up, of those
further up. -/
theorem le_slotCount_build (above : ∀ b ∈ x.parent, ∀ t ∈ b.tables, ∀ id ∈ t.slotIds,
      id.toNat ≤ b.slotCount.toNat) :
    ∀ t ∈ ((x.buildBy make traits).run s).1.tables, ∀ id ∈ t.slotIds,
      id.toNat ≤ ((x.buildBy make traits).run s).1.slotCount.toNat := by
  rw [Bindings.tables_buildBy]
  intro t ht id hid
  rcases List.mem_cons.mp ht with rfl | ht
  · have placed : id ∈ ((traits.foldlM (x.add make) x.start).run s).1.slotIds := hid
    obtain ⟨p, hp, same⟩ := (mem_given_of_slotIds placed).resolve_left List.not_mem_nil
    exact same ▸ (x.isGreatest_slotCount make x.start traits s).2 (.inr ⟨p, hp, rfl⟩)
  · have start := x.start_le_slotCount_build make traits s
    rw [toNat_slotCount_start] at start
    cases parent : x.parent with
    | none =>
      rw [parent] at ht
      exact absurd ht List.not_mem_nil
    | some b =>
      rw [parent] at ht start
      exact (above b parent t ht id hid).trans start

end BindingContext

/-- The highest place in use bounds the places of all slots of the chain. -/
theorem Bindings.Built.le_slotCount {b : Bindings} (h : b.Built) :
    ∀ t ∈ b.tables, ∀ id ∈ t.slotIds, id.toNat ≤ b.slotCount.toNat := by
  induction h with
  | root parent =>
    refine BindingContext.le_slotCount_build fun b hb => ?_
    rw [parent] at hb
    cases hb
  | derived _ parent ih =>
    refine BindingContext.le_slotCount_build fun b hb => ?_
    rw [parent] at hb
    cases hb
    exact ih

namespace BindingContext

/-- **The highest place in use.** A table is built over any chain of tables, with whatever makes
functions of bytecode, and all places fit. Its highest place in use is the greatest of the one
further up and those that its slots are given; so it bounds the places of all slots of the chain. A
slot that asks for a place is given one beyond those that were given before it and those of all
slots further up. -/
theorem slotCount_build {x : BindingContext} (above : ∀ a ∈ x.parent, a.Built)
    (make : Synthesis) (traits : List Trait) (s : Store)
    (fits : ∀ p ∈ places x.start.slotCount.toNat traits, p.number < UInt32.size) :
    let b := ((x.buildBy make traits).run s).1
    let given := x.given make x.start traits s
    IsGreatest (insert (x.parent.elim 0 (·.slotCount.toNat)) {n | ∃ p ∈ given, p.number = n})
        b.slotCount.toNat ∧
      (∀ t ∈ b.tables, ∀ id ∈ t.slotIds, id ≤ b.slotCount) ∧
      given.Pairwise (fun p q => q.declared = false → p.number < q.number) ∧
      ∀ q ∈ given, q.declared = false →
        ∀ a ∈ x.parent, ∀ t ∈ a.tables, ∀ id ∈ t.slotIds, id.toNat < q.number := by
  intro b given
  have numbered : given = places x.start.slotCount.toNat traits := x.given_eq_places make s fits
  refine ⟨?_, le_slotCount_build fun a ha => (above a ha).le_slotCount, ?_, ?_⟩
  · rw [← toNat_slotCount_start]
    exact x.isGreatest_slotCount make x.start traits s
  · rw [numbered]
    exact pairwise_lt_places _ traits
  · intro q hq asked a ha t ht id hid
    rw [numbered] at hq
    have start := x.toNat_slotCount_start
    rw [Option.mem_def.mp ha] at start
    calc id.toNat ≤ a.slotCount.toNat := (above a ha).le_slotCount t ht id hid
      _ = x.start.slotCount.toNat := start.symm
      _ < q.number := lt_of_mem_places hq asked

end BindingContext

/-- A slot that declares a place is replaced by one that declares another, and its place stays in
use: the slot that asks is given the one after it. Further up the third place is in use. -/
theorem slotCount_build_replaced :
    let x := Sample.tableContext "Slotted" (some (Sample.chain [] [Sample.slotAt "p" 3]))
    let traits := [Sample.slotAt "a" 5, Sample.slotAt "a" 2, Sample.slotAt "b" 0]
    let b := ((x.build traits).run Sample.opened).1
    x.given (synthesize ⟨0⟩) x.start traits Sample.opened = [⟨5, true⟩, ⟨2, true⟩, ⟨6, false⟩] ∧
      b.tables.map (·.slotIds) = [[2, 6], [3], []] ∧ b.slotCount = 6 ∧
      IsGreatest
        (insert 3 {n | ∃ p ∈ x.given (synthesize ⟨0⟩) x.start traits Sample.opened, p.number = n}) 6 ∧
      ∀ t ∈ b.tables, ∀ id ∈ t.slotIds, id ≤ b.slotCount := by
  intro x traits b
  have above : ∀ a ∈ x.parent, a.Built := fun a ha => by
    obtain rfl := Option.some.inj ha
    exact Sample.built_chain _ _
  have six : b.slotCount = 6 := by decide +kernel
  obtain ⟨greatest, bound, -⟩ := BindingContext.slotCount_build above (synthesize ⟨0⟩) traits
    Sample.opened
    (by decide +kernel)
  refine ⟨by decide +kernel, by decide +kernel, six, ?_, bound⟩
  rw [show ((x.buildBy (synthesize ⟨0⟩) traits).run Sample.opened).1.slotCount = 6 from six]
    at greatest
  exact greatest

end ClassLink
