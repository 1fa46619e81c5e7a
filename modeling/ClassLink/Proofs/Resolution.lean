import ClassLink.Proofs.Building
import ClassLink.Proofs.HolderFunctions

/-!
# Resolving native members

Which property of a holder implements a member is decided in two places: resolution asks for the
function, and verification only whether there is one. Here the rule is said once, without either
(`Property.Implements`): a stored function implements methods, each half of an accessor getters or
setters, and nothing implements a slot. It is looked up under the local name of the member, with one
exception (`HolderName`).

Both ways of asking follow this rule. Resolution gives the implementation of the first holder that
owns one, so holders that are added at the end change nothing for members that were resolved before.
-/

namespace ClassLink

/-! ### The rule -/

/-- The property implements members of a kind by a function. A stored value that is no function
implements nothing, and neither does the half that an accessor lacks. -/
inductive Property.Implements : Property → MemberKind → FunctionRef → Prop where
  /-- A stored function, whether enumeration shows it or not. -/
  | method (f : FunctionRef) (enumerable : Bool) :
    Implements (.data (.function f) enumerable) .method f
  /-- The half of an accessor that reading runs. -/
  | getter (f : FunctionRef) (setter : Option FunctionRef) :
    Implements (.accessor (some f) setter) .getter f
  /-- The half of an accessor that writing runs. -/
  | setter (getter : Option FunctionRef) (f : FunctionRef) :
    Implements (.accessor getter (some f)) .setter f

/-- The function that is found in a property is the one by which it implements the kind. -/
theorem Property.function?_eq_some_iff {p : Property} {kind : MemberKind} {f : FunctionRef} :
    p.function? kind = some f ↔ p.Implements kind f := by
  constructor
  · intro h
    cases p with
    | data v shown =>
      cases kind with
      | method =>
        cases v with
        | function g =>
          obtain rfl := Option.some.inj h
          exact .method g shown
        | _ => cases h
      | getter | setter | slot => cases h
    | accessor getter setter =>
      cases kind with
      | getter =>
        obtain rfl : getter = some f := h
        exact .getter f setter
      | setter =>
        obtain rfl : setter = some f := h
        exact .setter getter f
      | method | slot => cases h
  · rintro (_ | _ | _) <;> rfl

/-- The name under which holders own the implementations of members with a local name: the word that
holders may not use has a substitute, and any other name stands for itself. -/
inductive HolderName : String → String → Prop where
  | reserved : HolderName "prototype" "asPrototype"
  | plain {name : String} (other : name ≠ "prototype") : HolderName name name

theorem holderName_iff {name used : String} : HolderName name used ↔ used = nativeName name := by
  constructor
  · rintro (_ | other)
    · rfl
    · exact (if_neg other).symm
  · rintro rfl
    by_cases reserved : name = "prototype"
    · subst reserved
      exact .reserved
    · rw [nativeName, if_neg reserved]
      exact .plain reserved

namespace Trait

variable {t : Trait} {s : Store} {o : ObjectRef} {f : FunctionRef} {hs ks : List ObjectRef}

/-- The object owns an implementation of the member, under the name that holders use for it. -/
def IsImplementation (t : Trait) (s : Store) (o : ObjectRef) (f : FunctionRef) : Prop :=
  ∃ used p, HolderName t.name.name used ∧ (s.properties o).get? used = some p ∧
    p.Implements t.kind f

theorem implementation?_eq_some_iff :
    t.implementation? (s.properties o) = some f ↔ t.IsImplementation s o f := by
  rw [implementation?, PropertyTable.function?_eq, Option.bind_eq_some_iff]
  simp only [Property.function?_eq_some_iff, IsImplementation, holderName_iff, exists_and_left,
    exists_eq_left]

/-! ### The first holder -/

theorem resolve?_eq_some_iff : t.resolve? s hs = some f ↔ ∃ before o after,
    hs = before ++ o :: after ∧ (∀ x ∈ before, ∀ g, ¬ t.IsImplementation s x g) ∧
      t.IsImplementation s o f := by
  have none : ∀ x, t.implementation? (s.properties x) = none ↔ ∀ g, ¬ t.IsImplementation s x g := by
    intro x
    simp only [← implementation?_eq_some_iff, Option.eq_none_iff_forall_ne_some, ne_eq]
  simp only [resolve?, List.findSome?_eq_some_iff, implementation?_eq_some_iff, none]
  exact exists_congr fun before => exists_congr fun o => exists_congr fun after =>
    and_congr_right fun _ => and_comm

/-- Holders at the end are asked only for what those before them lack. -/
theorem resolve?_append : t.resolve? s (hs ++ ks) = (t.resolve? s hs).or (t.resolve? s ks) :=
  List.findSome?_append

end Trait

/-- Resolving a member gives its first implementation and writes nothing but the log. -/
theorem resolveBinding_run (t : Trait) (hs : List ObjectRef) (s : Store) :
    ∃ log, (resolveBinding t hs).run s = (t.resolve? s hs, { s with log := log }) := by
  unfold resolveBinding
  rw [run_bind, get_run]
  cases found : t.resolve? s hs with
  | some f => exact ⟨s.log, rfl⟩
  | none => exact ⟨_, rfl⟩

/-- **Resolution.** A member is resolved exactly if it is said to be implemented; it is resolved to
the implementation that is owned by the first holder that owns one; and with more holders at the end
it is resolved as before if it was, and otherwise as by those holders alone. Nothing is written but
the log. -/
theorem Trait.resolves_first (t : Trait) (s : Store) (hs ks : List ObjectRef) :
    let resolved (holders : List ObjectRef) := ((resolveBinding t holders).run s).1
    (t.isImplemented s hs = true ↔ (resolved hs).isSome = true) ∧
      (∀ f, resolved hs = some f ↔ ∃ before o after, hs = before ++ o :: after ∧
        (∀ x ∈ before, ∀ g, ¬ t.IsImplementation s x g) ∧ t.IsImplementation s o f) ∧
      resolved (hs ++ ks) =
        (match resolved hs with
          | some f => some f
          | none => resolved ks) ∧
      ∃ log, ((resolveBinding t hs).run s).2 = { s with log := log } := by
  intro resolved
  have run : ∀ holders, resolved holders = t.resolve? s holders := fun holders => by
    obtain ⟨_, run⟩ := resolveBinding_run t holders s
    exact congrArg Prod.fst run
  obtain ⟨log, logged⟩ := resolveBinding_run t hs s
  refine ⟨?_, fun f => ?_, ?_, log, congrArg Prod.snd logged⟩
  · rw [run, isSome_resolve?]
  · rw [run, resolve?_eq_some_iff]
  · rw [run, run, run, resolve?_append]
    cases t.resolve? s hs <;> rfl

namespace Sample

/-- A native method whose local name holders may not use. -/
def prototypeMethod : Trait := ⟨.plain "prototype", .method (.native 0 none 0)⟩

/-- Two holders: the first owns a function under the word itself, the second one under the
substitute. -/
def aliased : Store :=
  { Store.initial with
    objects := #[⟨none, PropertyTable.empty.defineMethod "prototype" ⟨0⟩, none⟩,
      ⟨none, PropertyTable.empty.defineMethod "asPrototype" ⟨1⟩, none⟩] }

end Sample

/-- The member is resolved to what the second holder owns under the substitute. What the first one
owns under the word itself is no implementation. -/
theorem resolves_first_prototype :
    let resolved (holders : List ObjectRef) :=
      ((resolveBinding Sample.prototypeMethod holders).run Sample.aliased).1
    resolved [⟨0⟩, ⟨1⟩] = some ⟨1⟩ ∧ resolved [⟨0⟩] = none ∧
      Sample.prototypeMethod.isImplemented Sample.aliased [⟨0⟩] = false := by
  intro resolved
  obtain ⟨_, first, _⟩ := Sample.prototypeMethod.resolves_first Sample.aliased [⟨0⟩, ⟨1⟩] []
  refine ⟨(first ⟨1⟩).mpr ⟨[⟨0⟩], ⟨1⟩, [], rfl, ?_, ?_⟩, by decide +kernel, by decide +kernel⟩
  · rintro o mem g ⟨used, p, name, own, _⟩
    obtain rfl := List.mem_singleton.mp mem
    cases name with
    | reserved => cases own
    | plain other => exact other rfl
  · exact ⟨"asPrototype", _, .reserved, rfl, .method ⟨1⟩ false⟩

end ClassLink
