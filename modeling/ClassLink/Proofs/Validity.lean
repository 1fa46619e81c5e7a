import ClassLink.Descriptor
import Mathlib.Data.List.Nodup

/-!
# Valid descriptors

Checking a descriptor looks for a member with the *label* of an earlier one, its key and the word
for its kind. A table tells members apart by their *identity*, the key and the kind itself. Kinds
have words of their own, so both notions of repeating a member are the same one.

A descriptor is accepted exactly if its native identifier is not empty and neither set repeats a
member (`ClassDescriptor.validate_eq_ok_iff`); otherwise the first finding is reported, and there is
only one that it can be (`ClassDescriptor.validate_eq_error_iff`).
-/

namespace ClassLink

/-! ### Labels and identities -/

theorem MemberKind.word_inj {k l : MemberKind} : k.word = l.word ↔ k = l := by
  cases k <;> cases l <;> decide

namespace Trait

/-- What identifies the member in its set. -/
def id (t : Trait) : String × MemberKind := (t.key, t.kind)

theorem label_inj {t u : Trait} : t.label = u.label ↔ t.id = u.id := by
  rw [label, label, id, id, Prod.mk.injEq, Prod.mk.injEq, MemberKind.word_inj]

theorem label_mem_iff {t : Trait} {ts : List Trait} :
    t.label ∈ ts.map label ↔ t.id ∈ ts.map id := by
  simp only [List.mem_map, label_inj]

theorem nodup_label_iff {ts : List Trait} : (ts.map label).Nodup ↔ (ts.map id).Nodup := by
  simp only [List.Nodup, List.pairwise_map, ne_eq, label_inj]

end Trait

/-! ### Repeated members -/

/-- A member repeats the identity of an earlier one, and none before it does. -/
def IsFirstRepeat (ts : List Trait) (t : Trait) : Prop :=
  ∃ before after, ts = before ++ t :: after ∧
    (before.map Trait.id).Nodup ∧ t.id ∈ before.map Trait.id

section
variable {seen : List (String × String)} {t : Trait} {ts : List Trait}

theorem firstRepeated?_cons_of_mem (old : t.label ∈ seen) :
    firstRepeated? seen (t :: ts) = some t := if_pos old

theorem firstRepeated?_cons_of_notMem (new : t.label ∉ seen) :
    firstRepeated? seen (t :: ts) = firstRepeated? (t.label :: seen) ts := if_neg new

/-- Nothing is repeated if the labels are distinct and not seen. -/
theorem firstRepeated?_eq_none_iff : firstRepeated? seen ts = none ↔
    (ts.map Trait.label).Nodup ∧ (ts.map Trait.label).Disjoint seen := by
  induction ts generalizing seen with
  | nil => simp [firstRepeated?]
  | cons u us ih =>
    rw [List.map_cons, List.nodup_cons, List.disjoint_cons_left]
    by_cases old : u.label ∈ seen
    · rw [firstRepeated?_cons_of_mem old]
      exact iff_of_false (fun h => by cases h) fun h => h.2.1 old
    · rw [firstRepeated?_cons_of_notMem old, ih, List.disjoint_cons_right]
      tauto

/-- The member that is found has a label that was seen when it is reached, and up to it nothing is
repeated. -/
theorem firstRepeated?_eq_some_iff :
    firstRepeated? seen ts = some t ↔ ∃ before after, ts = before ++ t :: after ∧
      firstRepeated? seen before = none ∧ t.label ∈ before.map Trait.label ++ seen := by
  induction ts generalizing seen with
  | nil => simp [firstRepeated?]
  | cons u us ih =>
    by_cases old : u.label ∈ seen
    · rw [firstRepeated?_cons_of_mem old]
      constructor
      · rintro ⟨⟩
        exact ⟨[], us, rfl, rfl, old⟩
      · rintro ⟨before, after, split, none, -⟩
        cases before with
        | nil => rw [(List.cons.inj split).1]
        | cons v before =>
          rw [← (List.cons.inj split).1, firstRepeated?_cons_of_mem old] at none
          cases none
    · rw [firstRepeated?_cons_of_notMem old, ih]
      constructor
      · rintro ⟨before, after, rfl, none, again⟩
        exact ⟨u :: before, after, rfl, (firstRepeated?_cons_of_notMem old).trans none,
          List.perm_middle.mem_iff.mp again⟩
      · rintro ⟨before, after, split, none, again⟩
        cases before with
        | nil => exact absurd ((List.cons.inj split).1 ▸ again) old
        | cons v before =>
          obtain ⟨rfl, rfl⟩ := List.cons.inj split
          exact ⟨before, after, rfl, (firstRepeated?_cons_of_notMem old).symm.trans none,
            List.perm_middle.mem_iff.mpr again⟩

end

/-- Checking from the start finds the first repeated member. -/
theorem firstRepeated?_nil_eq_some_iff {t : Trait} {ts : List Trait} :
    firstRepeated? [] ts = some t ↔ IsFirstRepeat ts t := by
  simp [firstRepeated?_eq_some_iff, firstRepeated?_eq_none_iff, IsFirstRepeat,
    Trait.nodup_label_iff, Trait.label_mem_iff]

/-- A set has a first repeated member exactly if it repeats one. -/
theorem exists_isFirstRepeat_iff {ts : List Trait} :
    (∃ t, IsFirstRepeat ts t) ↔ ¬ (ts.map Trait.id).Nodup := by
  have none : firstRepeated? [] ts = none ↔ (ts.map Trait.id).Nodup := by
    simp [firstRepeated?_eq_none_iff, Trait.nodup_label_iff]
  rw [← none, ← ne_eq, Option.ne_none_iff_exists']
  simp only [firstRepeated?_nil_eq_some_iff]

namespace ClassDescriptor

variable {d : ClassDescriptor} {ts : List Trait} {e : DescriptorError}

/-- The members that a class declares in a set. -/
def traits (x : ClassDescriptor) : TraitSet → List Trait
  | .static => x.staticTraits
  | .instance => x.instanceTraits

/-- The first repeated member of the static set, or, if it repeats none, that of the other set. -/
def IsRepeat (d : ClassDescriptor) (t : Trait) : Prop :=
  IsFirstRepeat d.staticTraits t ∨
    (d.staticTraits.map Trait.id).Nodup ∧ IsFirstRepeat d.instanceTraits t

theorem exists_isRepeat_iff :
    (∃ t, d.IsRepeat t) ↔ ∃ set, ¬ ((d.traits set).map Trait.id).Nodup := by
  constructor
  · rintro ⟨t, statics | ⟨-, instances⟩⟩
    · exact ⟨.static, exists_isFirstRepeat_iff.mp ⟨t, statics⟩⟩
    · exact ⟨.instance, exists_isFirstRepeat_iff.mp ⟨t, instances⟩⟩
  · rintro ⟨set, repeats⟩
    by_cases statics : (d.staticTraits.map Trait.id).Nodup
    · cases set with
      | static => exact absurd statics repeats
      | «instance» =>
        obtain ⟨t, ht⟩ := exists_isFirstRepeat_iff.mpr repeats
        exact ⟨t, .inr ⟨statics, ht⟩⟩
    · obtain ⟨t, ht⟩ := exists_isFirstRepeat_iff.mpr statics
      exact ⟨t, .inl ht⟩

/-! ### The checks -/

/-- Of two checks in sequence the first one that fails decides. -/
theorem andThen_eq_error_iff {x y : Except DescriptorError Unit} :
    (do x; y) = .error e ↔ x = .error e ∨ x = .ok () ∧ y = .error e := by
  cases x with
  | error e' => exact (or_iff_left (fun h => by cases h.1)).symm
  | ok _ => exact ((or_iff_right (fun h => by cases h)).trans (and_iff_right rfl)).symm

theorem andThen_eq_ok_iff {x y : Except DescriptorError Unit} :
    (do x; y) = .ok () ↔ x = .ok () ∧ y = .ok () := by
  cases x with
  | error e => exact iff_of_false (fun h => by cases h) fun h => by cases h.1
  | ok _ => exact (and_iff_right rfl).symm

theorem checkNativeId_eq_error_iff :
    d.checkNativeId = .error e ↔ d.nativeId = some "" ∧ e = .emptyNativeId d.display := by
  unfold checkNativeId
  split
  · rename_i empty
    rw [and_iff_right empty, Except.error.injEq, eq_comm]
  · rename_i named
    exact iff_of_false (fun h => by cases h) fun h => named h.1

theorem checkNativeId_eq_ok_iff : d.checkNativeId = .ok () ↔ d.nativeId ≠ some "" := by
  unfold checkNativeId
  split <;> simp [*]

theorem checkUnique_eq_error_iff : d.checkUnique ts = .error e ↔
    ∃ t, IsFirstRepeat ts t ∧ e = .duplicateTrait t.name.display t.kind d.display := by
  unfold checkUnique
  cases found : firstRepeated? [] ts with
  | none =>
    refine iff_of_false (fun h => by cases h) ?_
    rintro ⟨t, ht, -⟩
    cases found.symm.trans (firstRepeated?_nil_eq_some_iff.mpr ht)
  | some t =>
    have first := firstRepeated?_nil_eq_some_iff.mp found
    constructor
    · rintro ⟨⟩
      exact ⟨t, first, rfl⟩
    · rintro ⟨u, hu, rfl⟩
      cases found.symm.trans (firstRepeated?_nil_eq_some_iff.mpr hu)
      rfl

theorem checkUnique_eq_ok_iff : d.checkUnique ts = .ok () ↔ (ts.map Trait.id).Nodup := by
  rw [← not_iff_not, ← exists_isFirstRepeat_iff]
  cases outcome : d.checkUnique ts with
  | ok _ =>
    refine iff_of_false (fun h => h rfl) ?_
    rintro ⟨t, ht⟩
    cases outcome.symm.trans (checkUnique_eq_error_iff.mpr ⟨t, ht, rfl⟩)
  | error e =>
    obtain ⟨t, ht, -⟩ := checkUnique_eq_error_iff.mp outcome
    exact iff_of_true (fun h => by cases h) ⟨t, ht⟩

/-- **What is accepted.** The native identifier is not empty, and neither set repeats a member. -/
theorem validate_eq_ok_iff : d.validate = .ok () ↔
    d.nativeId ≠ some "" ∧ ∀ set, ((d.traits set).map Trait.id).Nodup := by
  rw [validate, andThen_eq_ok_iff, andThen_eq_ok_iff, checkNativeId_eq_ok_iff,
    checkUnique_eq_ok_iff, checkUnique_eq_ok_iff]
  refine and_congr_right fun _ => ⟨?_, fun both => ⟨both .static, both .instance⟩⟩
  rintro ⟨statics, instances⟩ (_ | _)
  · exact statics
  · exact instances

/-- **What is reported.** An empty native identifier; if it is not empty, the first repeated member
of the static set, or of the other set if the static one repeats none. -/
theorem validate_eq_error_iff : d.validate = .error e ↔
    (d.nativeId = some "" ∧ e = .emptyNativeId d.display) ∨
      d.nativeId ≠ some "" ∧
        ∃ t, d.IsRepeat t ∧ e = .duplicateTrait t.name.display t.kind d.display := by
  rw [validate, andThen_eq_error_iff, andThen_eq_error_iff, checkNativeId_eq_ok_iff,
    checkNativeId_eq_error_iff, checkUnique_eq_error_iff, checkUnique_eq_error_iff,
    checkUnique_eq_ok_iff]
  simp only [IsRepeat, or_and_right, exists_or, and_assoc, exists_and_left]

/-- Either set of a valid descriptor declares each identity once. -/
theorem nodup_traits (h : d.validate = .ok ()) (set : TraitSet) :
    ((d.traits set).map Trait.id).Nodup :=
  (validate_eq_ok_iff.mp h).2 set

/-- Both sets of a valid descriptor declare each identity once. -/
theorem nodup_of_validate (h : d.validate = .ok ()) :
    (d.staticTraits.map Trait.id).Nodup ∧ (d.instanceTraits.map Trait.id).Nodup :=
  ⟨nodup_traits h .static, nodup_traits h .instance⟩

end ClassDescriptor

end ClassLink
