import ClassLink.Proofs.Appending
import ClassLink.Proofs.Flattening

/-!
# The halves of an accessor

A getter and a setter of one key are two members, which may come from different classes of a chain,
and one property of the object that the chain is installed on. Installing one half reads the
property and keeps the other half, so a class that overrides one half leaves the other as it is
inherited: as long as the chain declares nothing else under the key, each half of the property is
the one that is looked up, in whatever order the halves are declared (`Bindings.applyTo_lookups`).
Here a half is followed through the members of its key. Each of them sets it, keeps it or removes
it, whatever it was (`Binding.halfAfter`).
-/

namespace ClassLink

/-- One half of an accessor. -/
def Property.half? (kind : MemberKind) (p : Property) : Option FunctionRef :=
  match kind with
  | .getter => p.getter?
  | .setter => p.setter?
  | .method | .slot => none

namespace Binding

/-- What a member makes of one half of the accessor under its key. -/
def halfAfter (b : Binding) (kind : MemberKind) (f : Option FunctionRef) : Option FunctionRef :=
  if b.kind = kind then b.function? else if b.kind.isAccessor then f else none

theorem half?_written (b : Binding) {kind : MemberKind} (accessor : kind.isAccessor = true)
    (p : Option Property) :
    (b.written p).half? kind = b.halfAfter kind (p.bind (Property.half? kind)) := by
  cases kind <;> cases accessor <;> cases b <;> rfl

/-- A half is shown if it is that half of the property. -/
theorem isShown_iff_half? {b : Binding} (accessor : b.kind.isAccessor = true)
    (p : Option Property) : b.IsShown p ↔ p.bind (Property.half? b.kind) = b.function? := by
  cases b <;> cases accessor <;> rfl

end Binding

theorem half?_writtenAll (es : List BindingEntry) (p : Option Property) {kind : MemberKind}
    (accessor : kind.isAccessor = true) :
    (writtenAll es p).bind (Property.half? kind) =
      es.foldl (fun f e => e.binding.halfAfter kind f) (p.bind (Property.half? kind)) := by
  induction es generalizing p with
  | nil => rfl
  | cons e es ih =>
    rw [List.foldl_cons, ← e.binding.half?_written accessor]
    exact ih (some (e.binding.written p))

namespace Bindings

variable {b : Bindings} {key : String} {kind : MemberKind} {e : BindingEntry} {found : Binding}

/-! ### Members that are looked up -/

/-- What is looked up is the binding of a member that is installed. -/
theorem lookup_eq_some_iff (h : b.Built) : b.lookup key kind = some found ↔
    ∃ e ∈ b.flattened.filter (·.key = key), e.kind = kind ∧ e.binding = found := by
  rw [lookup_eq_nearest h, ← find_flattened h, Option.map_eq_some_iff]
  refine exists_congr fun e => ?_
  constructor
  · rintro ⟨hf, rfl⟩
    have id : e.id = (key, kind) := by simpa using List.find?_some hf
    obtain ⟨rfl, rfl⟩ := Prod.mk.inj id
    exact ⟨List.mem_filter.mpr ⟨List.mem_of_find?_eq_some hf, by simp⟩, rfl, rfl⟩
  · rintro ⟨he, rfl, rfl⟩
    obtain ⟨mem, same⟩ := List.mem_filter.mp he
    obtain rfl : e.key = key := by simpa using same
    exact ⟨(find_eq_some_iff (nodup_flattenTables b.tables)).mpr mem, rfl⟩

theorem kind_of_lookup (h : b.Built) (hf : b.lookup key kind = some found) : found.kind = kind := by
  obtain ⟨e, _, rfl, rfl⟩ := (lookup_eq_some_iff h).mp hf
  rfl

theorem mem_declarations (h : e ∈ b.flattened.filter (·.key = key)) : e ∈ b.declarations key := by
  rw [filter_flattened] at h
  exact (mem_of_mem_foldl_overlay h).resolve_left List.not_mem_nil

/-- A member that is declared is found. -/
theorem isSome_lookup (h : b.Built) (he : e ∈ b.declarations key) :
    (b.lookup key e.kind).isSome := by
  have kinds := (mem_kinds_foldl_overlay b.key_declarations e.kind).mpr (List.mem_map_of_mem he)
  rw [← filter_flattened] at kinds
  obtain ⟨x, hx, same⟩ := List.mem_map.mp kinds
  exact Option.isSome_iff_exists.mpr ⟨_, (lookup_eq_some_iff h).mpr ⟨x, hx, same, rfl⟩⟩

/-! ### Members that are installed -/

section
variable (h : b.Built) (t : PropertyTable)
include h

/-- What is looked up is shown, if the chain declares nothing under the key that overwrites it. -/
theorem isShown_of_lookup (hf : b.lookup key kind = some found)
    (alone : ∀ e ∈ b.declarations key, e.kind.overwrites kind = false) :
    found.IsShown ((b.applied .replace t).get? key) := by
  obtain ⟨e, he, rfl, rfl⟩ := (lookup_eq_some_iff h).mp hf
  rw [applied, pending, PropertyTable.get?_foldl_install,
    isShown_writtenAll_iff (nodup_kinds_flattened b key) he]
  intro k hk wins
  obtain ⟨x, hx, rfl⟩ := List.mem_map.mp hk
  rw [alone x (mem_declarations hx)] at wins
  cases wins

/-- A half that is not looked up is not there, unless it was there before. -/
theorem half?_of_lookup_eq_none (accessor : kind.isAccessor = true)
    (missing : b.lookup key kind = none) (bare : (t.get? key).bind (Property.half? kind) = none) :
    ((b.applied .replace t).get? key).bind (Property.half? kind) = none := by
  rw [applied, pending, PropertyTable.get?_foldl_install, half?_writtenAll _ _ accessor, bare]
  refine List.foldlRecOn (motive := (· = none)) _ _ rfl fun f hf e he => ?_
  have other : e.kind ≠ kind := fun same => by
    rw [(lookup_eq_some_iff h).mpr ⟨e, he, same, rfl⟩] at missing
    cases missing
  rw [Binding.halfAfter, if_neg (show e.binding.kind ≠ kind from other), hf, ite_self]

end

/-- The chain declares the key under no kind but these. -/
def DeclaresOnly (b : Bindings) (key : String) (kinds : List MemberKind) : Prop :=
  ∀ e ∈ b.declarations key, e.kind ∈ kinds

instance (b : Bindings) (key : String) (kinds : List MemberKind) :
    Decidable (b.DeclaresOnly key kinds) :=
  inferInstanceAs (Decidable (∀ e ∈ b.declarations key, e.kind ∈ kinds))

/-- A key that is declared under one kind shows what is looked up. -/
theorem isShown_of_declaresOnly (h : b.Built) (declared : b.declarations key ≠ [])
    (only : b.DeclaresOnly key [kind]) (t : PropertyTable) :
    ∃ found, b.lookup key kind = some found ∧ found.kind = kind ∧
      found.IsShown ((b.applied .replace t).get? key) := by
  obtain ⟨e, he⟩ := List.exists_mem_of_ne_nil _ declared
  obtain rfl := List.mem_singleton.mp (only e he)
  obtain ⟨found, hf⟩ := Option.isSome_iff_exists.mp (isSome_lookup h he)
  refine ⟨found, hf, kind_of_lookup h hf, isShown_of_lookup h t hf fun x hx => ?_⟩
  rw [List.mem_singleton.mp (only x hx), MemberKind.overwrites_self]

/-- Each half of an accessor is the one that is looked up; `make` makes a member of the half. -/
theorem map_half?_eq_lookup (h : b.Built) (accessors : b.DeclaresOnly key [.getter, .setter])
    (kind : MemberKind) (accessor : kind.isAccessor = true)
    {t : PropertyTable} (free : t.get? key = none) {make : FunctionRef → Binding}
    (made : ∀ x : Binding, x.kind = kind → x.function?.map make = some x) :
    (((b.applied .replace t).get? key).bind (Property.half? kind)).map make =
      b.lookup key kind := by
  cases hf : b.lookup key kind with
  | none =>
    rw [half?_of_lookup_eq_none h t accessor hf (by rw [free]; rfl)]
    rfl
  | some found =>
    obtain rfl := kind_of_lookup h hf
    have shown := isShown_of_lookup h t hf fun e he =>
      MemberKind.overwrites_of_isAccessor (MemberKind.isAccessor_iff.mpr (accessors e he)) accessor
    rw [(Binding.isShown_iff_half? accessor _).mp shown, made found rfl]

/-- **Overriding one half of an accessor.** A chain of tables is installed on an object that does
not own a key. If the chain declares nothing but getters and setters under the key, each half of its
property is the one that is looked up. If it declares methods only, the property is the one that is
looked up, and enumeration does not show it; if it declares slots only, it is what the slot that is
looked up starts with, and enumeration shows it. -/
theorem applyTo_lookups {b : Bindings} (h : b.Built) (key : String) (d : DomainRef)
    {o : ObjectRef} {s : Store} (inside : o.index < s.objects.size)
    (free : (s.properties o).get? key = none) :
    let shown := ((b.applyTo d o .replace).run s).2.properties o
    (b.DeclaresOnly key [.getter, .setter] →
      (shown.getter? key).map .getter = b.lookup key .getter ∧
        (shown.setter? key).map .setter = b.lookup key .setter) ∧
    (b.declarations key ≠ [] → b.DeclaresOnly key [.method] →
      ∃ f, b.lookup key .method = some (.method f) ∧
        shown.get? key = some (.data (.function f) false)) ∧
    (b.declarations key ≠ [] → b.DeclaresOnly key [.slot] →
      ∃ slotId initial isConst, b.lookup key .slot = some (.slot slotId initial isConst) ∧
        shown.get? key = some (.data initial true)) := by
  intro shown
  have installed : shown = b.applied .replace (s.properties o) :=
    (b.properties_applyTo d o .replace s o).trans (if_pos ⟨rfl, inside⟩)
  rw [installed]
  refine ⟨fun accessors => ⟨?_, ?_⟩, fun declared only => ?_, fun declared only => ?_⟩
  · exact map_half?_eq_lookup h accessors .getter rfl free fun x hx => by cases x <;> cases hx; rfl
  · exact map_half?_eq_lookup h accessors .setter rfl free fun x hx => by cases x <;> cases hx; rfl
  · obtain ⟨found, hf, kind, property⟩ := isShown_of_declaresOnly h declared only (s.properties o)
    cases found <;> cases kind
    exact ⟨_, hf, property⟩
  · obtain ⟨found, hf, kind, property⟩ := isShown_of_declaresOnly h declared only (s.properties o)
    cases found <;> cases kind
    exact ⟨_, _, _, hf, property⟩

end Bindings

/-- The setter of an inherited accessor is overridden, beside a method and a slot: the getter is the
inherited one. -/
theorem applyTo_lookups_setter :
    let b := Sample.chain
      [Sample.getterK 1, Sample.setterK 2, { Sample.methodK 3 with name := .plain "m" }]
      [Sample.setterK 4, { Sample.slotK with name := .plain "n" }]
    let shown := ((b.applyTo ⟨0⟩ ⟨0⟩ .replace).run Sample.owningX).2.properties ⟨0⟩
    b.Built ∧ b.DeclaresOnly "k" [.getter, .setter] ∧
      (shown.getter? "k").map .getter = some (Binding.getter ⟨0⟩) ∧
      (shown.setter? "k").map .setter = some (Binding.setter ⟨3⟩) ∧
      shown.get? "m" = some (.data (.function ⟨2⟩) false) ∧
      shown.get? "n" = some (.data (.int 7) true) := by
  intro b shown
  have built : b.Built := Sample.built_chain _ _
  have inside : (0 : Nat) < Sample.owningX.objects.size := by decide +kernel
  have accessors : b.DeclaresOnly "k" [.getter, .setter] := by decide +kernel
  obtain ⟨getter, setter⟩ := (Bindings.applyTo_lookups built "k" ⟨0⟩ inside (by decide +kernel)).1
    accessors
  obtain ⟨f, hf, method⟩ := (Bindings.applyTo_lookups built "m" ⟨0⟩ inside (by decide +kernel)).2.1
    (by decide +kernel) (by decide +kernel)
  obtain ⟨i, v, c, hv, slot⟩ := (Bindings.applyTo_lookups built "n" ⟨0⟩ inside
    (by decide +kernel)).2.2 (by decide +kernel) (by decide +kernel)
  have three : b.lookup "m" .method = some (.method ⟨2⟩) := by decide +kernel
  have seven : b.lookup "n" .slot = some (.slot 1 (.int 7) false) := by decide +kernel
  obtain rfl : (⟨2⟩ : FunctionRef) = f := by simpa using three.symm.trans hf
  obtain ⟨rfl, rfl, rfl⟩ : 1 = i ∧ .int 7 = v ∧ false = c := by simpa using seven.symm.trans hv
  exact ⟨built, accessors, getter.trans (by decide +kernel), setter.trans (by decide +kernel),
    method, slot⟩

end ClassLink
