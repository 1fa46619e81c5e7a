import ClassLink.Object.Delegation
import Mathlib.Data.Finset.Card
import Mathlib.Data.Finset.Range
import Mathlib.Data.List.Nodup
import Mathlib.Logic.Relation

/-!
# What chains reach

A chain is followed by steps (`Above`, `Reaches`) or walked within a bound (`Chain.after`). A point
that is reached at all is reached by a walk without repetition, so a bound on the number of points
with a successor is enough for a walk to meet every point of the chain (`Chain.mem_after_iff`).
Points that one point reaches are comparable, since a point has one successor; and a chain that
comes to an end does not run into itself.
-/

namespace ClassLink

namespace Chain

variable {α : Type} {next : α → Option α} {a b c : α}

/-- `b` is reached from `a` by any number of steps. -/
def Reaches (next : α → Option α) : α → α → Prop :=
  Relation.ReflTransGen fun a b => next a = some b

theorem Reaches.head (step : next a = some b) (h : Reaches next b c) : Reaches next a c :=
  Relation.ReflTransGen.head step h

theorem Above.trans (h : Above next a b) (k : Above next b c) : Above next a c := by
  induction h with
  | next step => exact .step step k
  | step step _ ih => exact .step step (ih k)

/-- A point is reached if it is the start or above it. -/
theorem reaches_iff : Reaches next a b ↔ a = b ∨ Above next a b := by
  constructor
  · intro h
    induction h using Relation.ReflTransGen.head_induction_on with
    | refl => exact .inl rfl
    | head step _ ih =>
      rcases ih with rfl | up
      · exact .inr (.next step)
      · exact .inr (.step step up)
  · rintro (rfl | up)
    · exact .refl
    · induction up with
      | next step => exact .single step
      | step step _ ih => exact .head step ih

/-- What is above a point is reached from its successor. -/
theorem Above.reaches (h : Above next a c) (step : next a = some b) : Reaches next b c := by
  cases h with
  | next step' =>
    obtain rfl := Option.some.inj (step.symm.trans step')
    exact .refl
  | step step' rest =>
    obtain rfl := Option.some.inj (step.symm.trans step')
    exact reaches_iff.mpr (.inr rest)

/-- What is reached from the successor of a point is above the point. -/
theorem Above.of_reaches (step : next a = some b) (h : Reaches next b c) : Above next a c := by
  rcases reaches_iff.mp h with rfl | up
  · exact .next step
  · exact .step step up

/-- Of two points that are reached from a point one is reached from the other. -/
theorem Reaches.total (h : Reaches next a b) (k : Reaches next a c) :
    Reaches next b c ∨ Reaches next c b :=
  Relation.ReflTransGen.total_of_right_unique
    (fun _ _ _ h k => Option.some.inj (h.symm.trans k)) h k

/-- A chain that comes to an end does not run into itself. -/
theorem Ends.irrefl (h : Ends next a) : ¬Above next a a := by
  induction h with
  | last none =>
    intro up
    cases up with
    | next step => cases none.symm.trans step
    | step step => cases none.symm.trans step
  | step step _ ih =>
    intro up
    rcases reaches_iff.mp (up.reaches step) with rfl | back
    · exact ih (.next step)
    · exact ih (back.trans (.next step))

/-- Points that reach each other are the same, if their chain comes to an end. -/
theorem Ends.antisymm (h : Ends next a) (up : Reaches next a b) (down : Reaches next b a) :
    a = b := by
  rcases reaches_iff.mp up with same | up
  · exact same
  rcases reaches_iff.mp down with same | down
  · exact same.symm
  · exact absurd (up.trans down) h.irrefl

/-- A chain comes to an end if what it reaches does. -/
theorem Reaches.ends (h : Reaches next a b) (ends : Ends next b) : Ends next a := by
  induction h using Relation.ReflTransGen.head_induction_on with
  | refl => exact ends
  | head step _ ih => exact .step step ih

/-- What a chain that comes to an end reaches comes to an end. -/
theorem Ends.reaches (h : Ends next a) (up : Reaches next a b) : Ends next b := by
  induction up with
  | refl => exact h
  | tail _ step ih =>
    cases ih with
    | last none => cases none.symm.trans step
    | step step' rest =>
      obtain rfl := Option.some.inj (step.symm.trans step')
      exact rest

/-! A point without successor is given one; the other points keep theirs. -/

section
variable {next' : α → Option α} (same : ∀ x, x ≠ c → next' x = next x)
include same

/-- The point that is given a successor was reached before. -/
theorem Reaches.of_same (h : Reaches next' a c) : Reaches next a c := by
  induction h using Relation.ReflTransGen.head_induction_on with
  | refl => exact .refl
  | @head x y step _ ih =>
    by_cases at_ : x = c
    · exact at_ ▸ .refl
    · exact ih.head ((same x at_).symm.trans step)

variable (none : next c = none)
include none

theorem step_of_same (step : next a = some b) : next' a = some b := by
  refine (same a ?_).trans step
  rintro rfl
  cases none.symm.trans step

theorem Reaches.mono (h : Reaches next a b) : Reaches next' a b :=
  Relation.ReflTransGen.mono (fun _ _ => step_of_same same none) _ _ h

theorem Above.mono (h : Above next a b) : Above next' a b := by
  induction h with
  | next step => exact .next (step_of_same same none step)
  | step step _ ih => exact .step (step_of_same same none step) ih

/-- A chain still comes to an end, or it reaches the point that is given a successor. -/
theorem Ends.or_reaches (h : Ends next a) : Ends next' a ∨ Reaches next' a c := by
  induction h with
  | @last a last =>
    by_cases at_ : a = c
    · exact .inr (at_ ▸ .refl)
    · exact .inl (.last ((same a at_).trans last))
  | step step _ ih =>
    have step' := step_of_same same none step
    exact ih.imp (.step step') (.head step')

end

/-- The point that so many steps lead to. -/
def walk (next : α → Option α) : Nat → α → Option α
  | 0, a => some a
  | n + 1, a => (next a).bind (walk next n)

theorem walk_add (m n : Nat) (a : α) :
    walk next (m + n) a = (walk next m a).bind (walk next n) := by
  induction m generalizing a with
  | zero => rw [Nat.zero_add]; rfl
  | succ m ih =>
    rw [Nat.succ_add, walk, walk, Option.bind_assoc]
    cases next a with
    | none => rfl
    | some b => exact ih b

theorem above_iff_walk : Above next a b ↔ ∃ n, walk next (n + 1) a = some b := by
  constructor
  · intro h
    induction h with
    | next step => exact ⟨0, by rw [walk, step]; rfl⟩
    | step step _ ih =>
      obtain ⟨n, hn⟩ := ih
      exact ⟨n + 1, by rw [walk, step]; exact hn⟩
  · rintro ⟨n, hn⟩
    induction n generalizing a with
    | zero =>
      cases step : next a with
      | none => rw [walk, step] at hn; cases hn
      | some x =>
        rw [walk, step] at hn
        exact .next (step.trans hn)
    | succ n ih =>
      cases step : next a with
      | none => rw [walk, step] at hn; cases hn
      | some x =>
        rw [walk, step] at hn
        exact .step step (ih hn)

theorem mem_after_iff_walk {n : Nat} :
    b ∈ after next n a ↔ ∃ i < n, walk next (i + 1) a = some b := by
  induction n generalizing a with
  | zero => simp [after]
  | succ n ih =>
    rw [after]
    cases step : next a with
    | none => simp [walk, step]
    | some x =>
      rw [List.mem_cons, ih]
      constructor
      · rintro (rfl | ⟨i, lt, hi⟩)
        · exact ⟨0, Nat.succ_pos n, by rw [walk, step]; rfl⟩
        · exact ⟨i + 1, Nat.succ_lt_succ lt, by rw [walk, step]; exact hi⟩
      · rintro ⟨_ | i, lt, hi⟩ <;> rw [walk, step] at hi
        · exact .inl (Option.some.inj hi).symm
        · exact .inr ⟨i, Nat.lt_of_succ_lt_succ lt, hi⟩

section
variable {index : α → Nat} {bound : Nat}

/-- A walk of more steps than there are points with a successor passes a point twice; without the
steps in between it is shorter. -/
theorem walk_shorten (bounded : ∀ a b, next a = some b → index a < bound)
    (injective : Function.Injective index) {n : Nat} (le : bound ≤ n)
    (h : walk next (n + 1) a = some b) : ∃ m < n, walk next (m + 1) a = some b := by
  -- the points that the walk passes before its end, all of them with a successor
  have passes : ∀ k ≤ n, ∃ x, walk next k a = some x ∧ index x < bound ∧
      walk next (n + 1 - k) x = some b := by
    intro k hk
    have split : walk next (k + (n + 1 - k)) a = some b := by
      rwa [Nat.add_sub_cancel' (Nat.le_succ_of_le hk)]
    rw [walk_add] at split
    obtain ⟨x, reached, rest⟩ := Option.bind_eq_some_iff.mp split
    refine ⟨x, reached, ?_, rest⟩
    rw [Nat.succ_sub hk, walk] at rest
    obtain ⟨y, step, _⟩ := Option.bind_eq_some_iff.mp rest
    exact bounded x y step
  have : Nonempty α := ⟨a⟩
  choose! point reached inside rest using passes
  have crowded : (Finset.range bound).card < (Finset.range (n + 1)).card := by
    simpa using Nat.lt_succ_of_le le
  obtain ⟨i, hi, j, hj, ne, same⟩ := Finset.exists_ne_map_eq_of_card_lt_of_maps_to crowded
    (f := fun k => index (point k)) fun k hk => by
      have := inside k (Nat.le_of_lt_succ (Finset.mem_range.mp hk))
      simpa using this
  -- the later of the two may be taken to come second
  wlog lt : i < j generalizing i j
  · exact this j hj i hi ne.symm same.symm (lt_of_le_of_ne (not_lt.mp lt) ne.symm)
  have hi' : i ≤ n := Nat.le_of_lt_succ (Finset.mem_range.mp hi)
  have hj' : j ≤ n := Nat.le_of_lt_succ (Finset.mem_range.mp hj)
  refine ⟨i + (n - j), by omega, ?_⟩
  have steps : i + (n - j) + 1 = i + (n + 1 - j) := by omega
  rw [steps, walk_add, reached i hi', Option.bind_some, injective same]
  exact rest j hj'

/-- **What a walk meets.** A walk as long as there are points with a successor meets whatever is
above its start. -/
theorem mem_after_iff (bounded : ∀ a b, next a = some b → index a < bound)
    (injective : Function.Injective index) : b ∈ after next bound a ↔ Above next a b := by
  rw [mem_after_iff_walk, above_iff_walk]
  constructor
  · rintro ⟨i, _, hi⟩
    exact ⟨i, hi⟩
  · rintro ⟨n, hn⟩
    induction n using Nat.strong_induction_on with
    | _ n ih =>
      by_cases lt : n < bound
      · exact ⟨n, lt, hn⟩
      · obtain ⟨m, shorter, hm⟩ := walk_shorten bounded injective (not_lt.mp lt) hn
        exact ih m shorter hm

/-- There are no more points with a successor than the bound says. -/
theorem length_le_of_nodup (bounded : ∀ a b, next a = some b → index a < bound)
    (injective : Function.Injective index) {xs : List α} (nodup : xs.Nodup)
    (successor : ∀ x ∈ xs, ∃ b, next x = some b) : xs.length ≤ bound := by
  have inside : xs.map index ⊆ List.range bound := by
    intro i hi
    obtain ⟨x, hx, rfl⟩ := List.mem_map.mp hi
    obtain ⟨b, step⟩ := successor x hx
    exact List.mem_range.mpr (bounded x b step)
  simpa using ((nodup.map injective).subperm inside).length_le

/-- What a walk remembers when it comes to a point: points that the point is above, none of them
twice. With the steps that are left they are one more than there are points with a successor. -/
structure Passed (next : α → Option α) (bound n : Nat) (seen : List α) (a : α) : Prop where
  nodup : seen.Nodup
  below : ∀ x ∈ seen, Above next x a
  enough : n + seen.length = bound + 1

/-- It has not passed more points than there are with a successor. -/
theorem Passed.length_le (bounded : ∀ a b, next a = some b → index a < bound)
    (injective : Function.Injective index) {n : Nat} {seen : List α}
    (h : Passed next bound n seen a) : seen.length ≤ bound := by
  refine length_le_of_nodup bounded injective h.nodup fun x hx => ?_
  cases h.below x hx with
  | next step => exact ⟨_, step⟩
  | step step _ => exact ⟨_, step⟩

/-- A walk along a chain that comes to an end meets a new point, and has a step left for it. -/
theorem Passed.new (bounded : ∀ a b, next a = some b → index a < bound)
    (injective : Function.Injective index) {n : Nat} {seen : List α}
    (h : Passed next bound n seen a) (ends : Ends next a) : a ∉ seen ∧ ∃ m, n = m + 1 := by
  have le := h.length_le bounded injective
  have enough := h.enough
  refine ⟨fun again => ends.irrefl (h.below a again), n - 1, ?_⟩
  omega

/-- From a new point the walk goes on to its successor. -/
theorem Passed.step {n : Nat} {seen : List α} (h : Passed next bound (n + 1) seen a)
    (new : a ∉ seen) (step : next a = some b) : Passed next bound n (a :: seen) b := by
  refine ⟨List.nodup_cons.mpr ⟨new, h.nodup⟩, fun x hx => ?_, ?_⟩
  · rcases List.mem_cons.mp hx with rfl | hx
    · exact .next step
    · exact (h.below x hx).trans (.next step)
  · have enough := h.enough
    rw [List.length_cons]
    omega

section
variable [DecidableEq α]

/-- A walk that says that the chain comes to an end has come to it. -/
theorem ends_of_endsFrom {n : Nat} {seen : List α} (h : endsFrom next n seen (some a) = true) :
    Ends next a := by
  induction n generalizing seen a with
  | zero => cases h
  | succ n ih =>
    rw [endsFrom] at h
    split at h
    · cases h
    · cases step : next a with
      | none => exact .last step
      | some b =>
        rw [step] at h
        exact .step step (ih h)

theorem endsFrom_of_ends (bounded : ∀ a b, next a = some b → index a < bound)
    (injective : Function.Injective index) (ends : Ends next a) {n : Nat} {seen : List α}
    (h : Passed next bound n seen a) : endsFrom next n seen (some a) = true := by
  induction ends generalizing n seen with
  | last none =>
    obtain ⟨new, m, rfl⟩ := h.new bounded injective (.last none)
    rw [endsFrom, if_neg new, none, endsFrom]
  | @step a b step rest ih =>
    obtain ⟨new, m, rfl⟩ := h.new bounded injective (.step step rest)
    rw [endsFrom, if_neg new, step]
    exact ih (h.step new step)

/-- **Whether a chain comes to an end** is decided by a walk that remembers the points it passes, if
it may be as long as there are points with a successor. -/
theorem ends_iff (bounded : ∀ a b, next a = some b → index a < bound)
    (injective : Function.Injective index) : ends next bound a = true ↔ Ends next a := by
  unfold ends
  cases step : next a with
  | none => exact iff_of_true (by rw [endsFrom]) (.last step)
  | some b =>
    constructor
    · exact fun h => .step step (ends_of_endsFrom h)
    · intro h
      cases h with
      | last none => cases step.symm.trans none
      | step step' rest =>
        obtain rfl := Option.some.inj (step.symm.trans step')
        exact endsFrom_of_ends bounded injective rest
          ⟨List.nodup_singleton a, fun x hx => List.mem_singleton.mp hx ▸ .next step, rfl⟩

end

end

end Chain

namespace Store

variable (s : Store)

/-- Only objects of the store delegate. -/
theorem index_lt_of_parent {o p : ObjectRef} (h : s.parent o = some p) :
    o.index < s.objects.size := by
  by_contra out
  rw [parent, object, Array.getElem?_eq_none (not_lt.mp out)] at h
  cases h

/-- Only classes of the store derive. -/
theorem index_lt_of_base {c b : ClassRef} (h : s.base c = some b) : c.index < s.classes.size := by
  by_contra out
  rw [base, classAt, Array.getElem?_eq_none (not_lt.mp out)] at h
  cases h

theorem delegationEnds_iff {o : ObjectRef} : s.delegationEnds o = true ↔ Chain.Ends s.parent o :=
  Chain.ends_iff (fun _ _ => s.index_lt_of_parent) fun _ _ => congrArg ObjectRef.mk

theorem basesEnd_iff {c : ClassRef} : s.basesEnd c = true ↔ Chain.Ends s.base c :=
  Chain.ends_iff (fun _ _ => s.index_lt_of_base) fun _ _ => congrArg ClassRef.mk

/-- An object delegates to what is above it. -/
theorem inheritsFrom_iff {o a : ObjectRef} :
    s.inheritsFrom o a = true ↔ Chain.Above s.parent o a := by
  rw [inheritsFrom, decide_eq_true_iff, ancestors]
  exact Chain.mem_after_iff (fun _ _ => s.index_lt_of_parent) fun _ _ => congrArg ObjectRef.mk

end Store

end ClassLink
