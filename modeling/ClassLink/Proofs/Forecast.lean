import ClassLink.Proofs.Directories
import ClassLink.Proofs.Filling
import ClassLink.Proofs.Outcomes

/-!
# What a link makes, told beforehand

Apart from the places that are given out, everything that linking a class comes to can be told
before: how its tables look, which keys its class object and its template have, what it is reported
with, what the domain is told and what it counts. It depends on the descriptor, on the host class
and the options, on the tables of the base and those that class objects share, on what slots start
with, and on nothing else. This is told for the classes that are neither the root nor the class of
class objects.
-/

namespace ClassLink

/-! ### The outline of a class -/

/-- A table, whichever functions its members are bound to, and the tables further up. -/
structure TableOutline where
  members : List MemberOutline
  above : List BindingTable
deriving DecidableEq, Repr

/-- How a table looks in a store. -/
def Bindings.outline (b : Bindings) (s : Store) : TableOutline :=
  ⟨b.own.entries.map (·.outline s), b.inherited⟩

/-- How a table is to look. -/
def Terms.outline (y : Terms) (traits : List Trait) : TableOutline :=
  ⟨y.members (y.above.elim 0 (·.slotCount)) traits, y.above.elim [] (·.tables)⟩

theorem Bindings.OutlinedBy.outline_eq {b : Bindings} {y : Terms} {traits : List Trait} {u : Store}
    (h : b.OutlinedBy y traits u) : b.outline u = y.outline traits := by
  rw [Bindings.outline, h.own.outline, h.inherited]
  rfl

/-- A linked class, whichever places were given out for it. -/
structure ClassOutline where
  report : Option Report
  statics : Option TableOutline
  instances : Option TableOutline
  /-- The own keys of the class object. -/
  objectKeys : List String
  /-- The own keys of the template. -/
  templateKeys : Option (List String)
deriving DecidableEq, Repr

/-- How a class looks in a store. -/
def Store.outline (s : Store) (c : ClassRef) : ClassOutline where
  report := (s.classAt c).verification
  statics := (s.classAt c).staticBindings.map (·.outline s)
  instances := (s.classAt c).instanceBindings.map (·.outline s)
  objectKeys := (s.properties (s.classAt c).object).keys
  templateKeys := (s.classAt c).template?.map fun o => (s.properties o).keys

/-! ### The forecast -/

/-- A class that is neither the root nor the class of class objects. -/
def ClassDescriptor.IsOrdinary (x : ClassDescriptor) : Prop :=
  x.nativeId ≠ some Builtins.objectClassId ∧ x.nativeId ≠ some Builtins.classClassId

namespace Store

variable (s : Store) (d : DomainRef) (x : ClassDescriptor) (base : Option ClassRef)

/-- The terms in which the members of a set are bound. -/
def terms (set : TraitSet) : Terms where
  suppliers := suppliersOf (s.host? x) set
  above :=
    match set with
    | .static => none
    | .instance => base.bind fun b => (s.classAt b).instanceBindings
  initial := slotInitial s d
  isStub f := (s.function f).isUnresolved

/-- The members that class objects share, if their class is linked. -/
def shared? : Option Bindings :=
  (s.domain d).classOfClasses.bind fun m => (s.classAt m).instanceBindings

/-- The keys of the class object before it is given the members that class objects share. -/
def ownKeys : List String :=
  ((s.terms d x base .static).keys x.staticTraits).foldl arrive (hostKeys (s.host? x))

/-- The native members of a set that the host class lacks. -/
def lacking (set : TraitSet) : List Trait :=
  (x.traits set).filter (·.lacks (suppliersOf (s.host? x) set))

/-- The sets for which the host class declares no holders. -/
def undeclaredHolders : List TraitSet :=
  (if (s.host? x).any (·.staticNatives.isInherited) then [.static] else []) ++
    (if (s.host? x).any (·.instanceNatives.isInherited) then [.instance] else [])

/-- The report on the class, if it is verified. -/
def expectedReport : Report where
  missingNatives := (s.lacking x .static).map (fun m => (TraitSet.static, m.name.display)) ++
    (s.lacking x .instance).map fun m => (.instance, m.name.display)
  structural := (s.misplaced? x base).toList
  inheritedHolders := s.undeclaredHolders x

/-- The same findings as they are said. -/
def expectedFindings : List Diagnostic :=
  (s.misplaced? x base).toList.map (fun p => .error x.display (.structural p)) ++
    ((s.undeclaredHolders x).map (fun set => .warning x.display (.inheritedHolders set)) ++
      ((s.lacking x .static).map (fun m =>
          .warning x.display (.missingNative m.name.display m.kind .static)) ++
        (s.lacking x .instance).map fun m =>
          .warning x.display (.missingNative m.name.display m.kind .instance)))

/-- How the class is to look once it is linked. -/
def forecast : ClassOutline where
  report := if (s.domain d).options.verify then some (s.expectedReport x base) else none
  statics := some ((s.terms d x base .static).outline x.staticTraits)
  instances := some ((s.terms d x base .instance).outline x.instanceTraits)
  objectKeys :=
    ((s.shared? d).elim [] (·.appended (s.ownKeys d x base))).foldl arrive (s.ownKeys d x base)
  templateKeys := some (((s.terms d x base .instance).keys x.instanceTraits).foldl arrive
    ((hostPrototype? (s.host? x)).elim [] (·.keys)))

/-- What the link comes to: a fault, or a class of this look. -/
def expected : Except Fault ClassOutline :=
  match s.linkFault? d x base with
  | some e => .error e
  | none => .ok (s.forecast d x base)

/-- What is said when the class is created. -/
def saidFirst : List Diagnostic :=
  if (hostPrototype? (s.host? x)).isSome then [.warning x.display .ignoredConstructor] else []

/-- What the domain is told. A link that fails comes that far if the class is created. -/
def told : List Diagnostic :=
  match x.validate, s.missingHost? x with
  | .ok _, none => s.saidFirst x ++
      if (s.domain d).options.verify && (s.linkFault? d x base).isNone then
        s.expectedFindings x base
      else []
  | _, _ => []

/-- What the binding of a set is counted with. -/
def countsOf (set : TraitSet) : BindingStats :=
  ⟨1, ((s.terms d x base set).ids (x.traits set)).length, (s.lacking x set).length⟩

/-- What sharing is counted with. -/
def sharedCounts : BindingStats :=
  (s.shared? d).elim 0 fun b => ⟨1, (b.appended (s.ownKeys d x base)).length, 0⟩

/-- What the domain counts. A link that fails is not counted. -/
def counted : BindingStats :=
  if (s.linkFault? d x base).isNone then
    s.countsOf d x base .static + s.countsOf d x base .instance + s.sharedCounts d x base
  else 0

end Store

/-! ### What the descriptions refer to -/

section
variable {s t u : Store} {cs : List ClassRef} {d : DomainRef} {descriptor : ClassDescriptor}
  {base : Option ClassRef} {scope : Scope} {c : ClassRef}

/-- What is found is given if it was before, or if the member is that value. -/
theorem MemberBody.found_given {b : MemberBody} {kind : MemberKind} {before : Option Supply}
    {f : FunctionRef} (given : b.found .made .given kind before = some (.given f)) :
    before = some (.given f) ∨ b = .value (.function f) := by
  cases b with
  | method | getter | setter => cases kind <;> first | exact .inl given | cases given
  | value v =>
    cases kind with
    | method =>
      cases v with
      | function g =>
        obtain rfl : g = f := by simpa [found, Value.function?] using given
        exact .inr rfl
      | _ => cases given
    | _ => cases given

/-- A function that a holder was given is a value of its description. -/
theorem HolderDefinition.mem_of_given {h : HolderDefinition} {kind : MemberKind} {key : String}
    {f : FunctionRef} (given : h.supply? kind key = some (.given f)) :
    ∃ m ∈ h.members, m.body = .value (.function f) := by
  unfold supply? at given
  suffices all : ∀ (ms : List HolderMember) (before : Option Supply),
      ms.foldl (fun before m => if m.name = key then m.body.found .made .given kind before
        else before) before = some (.given f) →
      before = some (.given f) ∨ ∃ m ∈ ms, m.body = .value (.function f) from
    (all _ _ given).resolve_left nofun
  intro ms
  induction ms with
  | nil => exact fun _ same => .inl same
  | cons m ms ih =>
    intro before last
    rcases ih _ last with first | ⟨m', hm, body⟩
    · dsimp only at first
      split at first
      · exact (MemberBody.found_given first).imp_right fun body => ⟨m, List.mem_cons_self, body⟩
      · exact .inl first
    · exact .inr ⟨m', List.mem_cons_of_mem _ hm, body⟩

/-- A function that a member is given by its host class exists. -/
theorem Store.HostClosed.inside (closed : s.HostClosed descriptor) {set : TraitSet} {m : Trait}
    {f : FunctionRef} (given : m.supply? (suppliersOf (s.host? descriptor) set) = some (.given f)) :
    f.index < s.functions.size := by
  obtain ⟨h, mem, found⟩ := List.exists_of_findSome?_eq_some given
  obtain ⟨m', hm, body⟩ := HolderDefinition.mem_of_given found
  unfold Store.host? at mem
  cases named : descriptor.nativeId with
  | none => rw [named] at mem; exact absurd mem List.not_mem_nil
  | some id =>
    rw [named, Option.bind_some] at mem
    cases registered : s.natives.lookup id with
    | none => rw [registered] at mem; exact absurd mem List.not_mem_nil
    | some definition =>
      rw [registered] at mem
      refine closed id definition named registered h ?_ m' hm f body
      simp only [NativeDefinition.holderDefinitions, List.mem_cons, List.mem_append]
      cases set with
      | static =>
        rcases List.mem_cons.mp mem with rfl | mem
        · exact .inl rfl
        · exact .inr (.inr (.inl mem))
      | «instance» =>
        rcases List.mem_append.mp mem with mem | mem
        · refine .inr (.inl ?_)
          rwa [Option.toList_map] at mem
        · exact .inr (.inr (.inr mem))

/-- What slots start with depends on the directory and on classes that were linked. -/
theorem Store.Directs.slotInitial_eq (directs : s.Directs cs d) (hierarchy : Hierarchy s cs)
    (keeps : s.Keeps u) {slot : Slot}
    (same : ∀ name, slot.typeName = some name → slot.initial = none →
      (u.domain d).directory.find? name.key = (s.domain d).directory.find? name.key) :
    slotInitial u d slot = slotInitial s d slot := by
  unfold slotInitial
  cases initial : slot.initial with
  | some x => rfl
  | none =>
    cases typed : slot.typeName with
    | none => rfl
    | some name =>
      simp only [same name typed initial]
      cases found : (s.domain d).directory.find? name.key with
      | none => rfl
      | some k =>
        have listed := directs.linked k (Directory.mem_of_find? found)
        simp only [keeps.classAt k (hierarchy.inside listed)]

end

end ClassLink
