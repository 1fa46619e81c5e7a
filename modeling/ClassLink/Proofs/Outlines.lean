import ClassLink.Proofs.Supplies

/-!
# The outline of a table

Which function a member is bound to depends on the store in which it is bound; whether it is a stub
does not, and neither does anything else that can be seen of the member without calling it
(`MemberOutline`). The outline of a table can be written down before the table is built: `Terms`
says what it depends on, which are the descriptions of the holders, the tables further up, and what
slots start with. So can the keys of an object that the table is installed on.
-/

namespace ClassLink

/-! ### Outlines -/

/-- What a slot is at run time: its place, what it starts with and whether it is constant. -/
def Binding.slot? : Binding → Option (UInt32 × Value × Bool)
  | .slot slotId initial isConst => some (slotId, initial, isConst)
  | _ => none

/-- The member is bound to a stub. -/
def Binding.isStub (b : Binding) (s : Store) : Bool :=
  b.function?.any fun f => (s.function f).isUnresolved

/-- A member of a table, whichever function it is bound to. -/
structure MemberOutline where
  key : String
  name : QualifiedName
  kind : MemberKind
  native : Bool
  overrides : Bool
  slot : Option (UInt32 × Value × Bool)
  /-- Bound to a stub. -/
  stub : Bool
deriving DecidableEq, Repr

/-- How a member looks in a store. -/
def BindingEntry.outline (e : BindingEntry) (s : Store) : MemberOutline where
  key := e.key
  name := e.name
  kind := e.kind
  native := e.native
  overrides := e.overrides
  slot := e.binding.slot?
  stub := e.binding.isStub s

/-- What the outline of a table depends on. -/
structure Terms where
  /-- The descriptions of the holders. -/
  suppliers : List HolderDefinition
  /-- The tables further up. -/
  above : Option Bindings
  /-- What a slot starts with. -/
  initial : Slot → Value
  /-- A function that a description refers to is a stub. -/
  isStub : FunctionRef → Bool

namespace Terms

variable (y : Terms)

/-- What comes from there is a stub, and so is what comes from nowhere. -/
def stubFrom : Option Supply → Bool
  | some .made => false
  | some (.given f) => y.isStub f
  | none => true

/-- The member is to be bound to a stub. -/
def stubs (m : Trait) : Bool := m.isNative && y.stubFrom (m.supply? y.suppliers)

/-- What a slot is to be when `used` is the highest place in use. -/
def slot? (used : UInt32) (m : Trait) : Option (UInt32 × Value × Bool) :=
  match m.declaration with
  | .slot x => some (BindingContext.slotId used x, y.initial x, x.isConst)
  | _ => none

/-- How a member is to look when `used` is the highest place in use. -/
def member (used : UInt32) (m : Trait) : MemberOutline where
  key := m.key
  name := m.name
  kind := m.kind
  native := m.isNative
  overrides := y.above.any fun b => (b.lookup m.key m.kind).isSome
  slot := y.slot? used m
  stub := y.stubs m

/-- The highest place in use once a member is bound. -/
def usedAfter (used : UInt32) (m : Trait) : UInt32 :=
  match m.declaration with
  | .slot x => if used < BindingContext.slotId used x then BindingContext.slotId used x else used
  | _ => used

/-- How members are to look that are bound one after the other. -/
def members : UInt32 → List Trait → List MemberOutline
  | _, [] => []
  | used, m :: ms => y.member used m :: members (usedAfter used m) ms

/-- The identities in the flattened chain of the table. -/
def ids (traits : List Trait) : List (String × MemberKind) :=
  (traits.map Trait.id).foldl arrive (y.above.elim [] fun b => Bindings.ids b.flattened)

/-- The keys in the flattened chain, each as often as it has kinds. -/
def keys (traits : List Trait) : List String := (y.ids traits).map (·.1)

end Terms

/-! ### Binding one member -/

/-- Members are bound in these terms. -/
structure BindingContext.Meets (x : BindingContext) (y : Terms) (s : Store) : Prop where
  inside : x.domain.index < s.domains.size
  holders : List.Forall₂ s.Carries y.suppliers x.holders
  parent : x.parent = y.above
  initial : ∀ slot, slotInitial s x.domain slot = y.initial slot
  given : ∀ m f, Trait.supply? m y.suppliers = some (.given f) →
    f.index < s.functions.size ∧ (s.function f).isUnresolved = y.isStub f

namespace BindingContext

variable {x : BindingContext} {y : Terms} {s u : Store} {n : Nat}

/-- Binding members leaves the terms as they were. -/
theorem Meets.binds (h : x.Meets y s) (bound : Binds x.domain n s u) : x.Meets y u := by
  have functions : ∀ f : FunctionRef, f.index < s.functions.size → u.function f = s.function f :=
    fun f lt => bound.confined.function f lt (Set.notMem_empty f)
  refine ⟨bound.confined.domains_eq ▸ h.inside, h.holders.imp fun _ o carries => ?_, h.parent,
    fun slot => ?_, fun m f hf => ?_⟩
  · exact carries.later bound.confined (Set.notMem_empty o) fun g => Set.notMem_empty g
  · rw [← h.initial slot]
    unfold slotInitial
    rw [bound.confined.settings x.domain]
    simp only [Store.classAt, bound.classes]
  · obtain ⟨lt, same⟩ := h.given m f hf
    exact ⟨lt.trans_le bound.confined.functions_le, by rw [functions f lt, same]⟩

/-- A slot is bound to its place and to what slots of its type start with. -/
theorem Meets.slot?_bind (h : x.Meets y s) (used : UInt32) (m : Trait) :
    ((x.bind (synthesize x.domain) used m).run s).1.slot? = y.slot? used m := by
  unfold bind Terms.slot?
  cases m.declaration with
  | method f => rfl
  | getter f => rfl
  | setter f => rfl
  | slot slot =>
    rw [run_bind, get_run, pure_run]
    simp only [Binding.slot?, h.initial slot]

/-- The highest place in use is known from the declaration. -/
theorem usedAfter_bind (x : BindingContext) (used : UInt32) (m : Trait) (s : Store) :
    usedAfter used ((x.bind (synthesize x.domain) used m).run s).1 = Terms.usedAfter used m := by
  unfold bind Terms.usedAfter
  cases m.declaration <;> rfl

/-- An implementation exists, and is a stub as the terms say. -/
theorem Meets.of_gives (h : x.Meets y s) {m : Trait} {z : Supply} {g : FunctionRef}
    (supply : m.supply? y.suppliers = some z) (gives : z.Gives s g) :
    g.index < s.functions.size ∧ (s.function g).isUnresolved = y.stubFrom (some z) := by
  cases z with
  | made => exact gives
  | given f =>
    obtain rfl : g = f := gives
    exact h.given m g supply

/-- What a member is bound to exists, and is a stub as the terms say. -/
theorem Meets.isStub_bind (h : x.Meets y s) (used : UInt32) (m : Trait) :
    (∀ g, ((x.bind (synthesize x.domain) used m).run s).1.function? = some g →
      g.index < ((x.bind (synthesize x.domain) used m).run s).2.functions.size) ∧
      ((x.bind (synthesize x.domain) used m).run s).1.isStub
        ((x.bind (synthesize x.domain) used m).run s).2 = y.stubs m := by
  obtain ⟨binds, supplied⟩ := x.bind_supplied m s used h.inside
  generalize (x.bind (synthesize x.domain) used m).run s = r at binds supplied ⊢
  obtain ⟨b, u⟩ := r
  simp only at binds supplied ⊢
  have missing := m.isMissing_eq_lacks h.holders
  have found := m.rel_resolve? h.holders
  unfold Binding.isStub Terms.stubs
  cases native : m.isNative with
  | false =>
    refine ⟨fun g hg => (supplied.bytecode native g hg).2.1, ?_⟩
    cases hb : b.function? with
    | none => rfl
    | some g => exact (supplied.bytecode native g hb).2.2
  | true =>
    rw [Trait.lacks, native, Bool.true_and] at missing
    rw [Bool.true_and]
    cases supply : m.supply? y.suppliers with
    | none =>
      rw [supply] at missing
      obtain ⟨g, hg, _, lt, stub⟩ := supplied.missing missing
      rw [hg, Option.any_some, stub]
      exact ⟨fun g' hg' => Option.some.inj hg' ▸ lt, rfl⟩
    | some z =>
      rw [supply] at missing found
      have resolved := supplied.implemented native missing
      generalize m.resolve? s x.holders = f at found resolved
      cases found with
      | @some _ g gives =>
        obtain ⟨lt, stub⟩ := h.of_gives supply gives
        have kept := binds.confined.function g lt (Set.notMem_empty g)
        rw [resolved, Option.any_some, kept, stub]
        exact ⟨fun g' hg' => Option.some.inj hg' ▸ lt.trans_le binds.confined.functions_le, rfl⟩

end BindingContext

/-! ### Building a table -/

/-- These members were bound: their functions exist, and they look as the terms say. -/
structure Outlined (y : Terms) (used : UInt32) (traits : List Trait) (es : List BindingEntry)
    (u : Store) : Prop where
  inside : ∀ e ∈ es, ∀ g, e.binding.function? = some g → g.index < u.functions.size
  outline : es.map (·.outline u) = y.members used traits

namespace Outlined

variable {y : Terms} {used : UInt32} {traits : List Trait} {es : List BindingEntry} {u v : Store}

/-- Members look as they did while their functions are as they were. -/
theorem later (h : Outlined y used traits es u) (le : u.functions.size ≤ v.functions.size)
    (kept : ∀ g : FunctionRef, g.index < u.functions.size → v.function g = u.function g) :
    Outlined y used traits es v := by
  refine ⟨fun e he g hg => (h.inside e he g hg).trans_le le, ?_⟩
  rw [← h.outline]
  refine List.map_congr_left fun e he => ?_
  have same : e.binding.isStub v = e.binding.isStub u := by
    unfold Binding.isStub
    cases hb : e.binding.function? with
    | none => rfl
    | some g => rw [Option.any_some, Option.any_some, kept g (h.inside e he g hb)]
  rw [BindingEntry.outline, same]
  rfl

/-- Members that were bound before others. -/
theorem append {m : Trait} {e : BindingEntry} (first : Outlined y used [m] [e] u)
    (rest : Outlined y (Terms.usedAfter used m) traits es u) :
    Outlined y used (m :: traits) (e :: es) u := by
  refine ⟨fun e' he => ?_, ?_⟩
  · rcases List.mem_cons.mp he with rfl | he
    · exact first.inside e' List.mem_cons_self
    · exact rest.inside e' he
  · exact congrArg₂ (· ++ ·) first.outline rest.outline

/-- The identities of the members are those declared. -/
theorem ids_eq (h : Outlined y used traits es u) : Bindings.ids es = traits.map Trait.id := by
  have outlined : ∀ (ms : List Trait) (used : UInt32),
      (y.members used ms).map (fun o => (o.key, o.kind)) = ms.map Trait.id := by
    intro ms
    induction ms with
    | nil => exact fun _ => rfl
    | cons m ms ih => exact fun used => congrArg (m.id :: ·) (ih _)
  rw [← outlined traits used, ← h.outline, List.map_map]
  rfl

end Outlined

/-- A table was built in these terms. -/
structure Bindings.OutlinedBy (b : Bindings) (y : Terms) (traits : List Trait) (u : Store) :
    Prop where
  own : Outlined y (y.above.elim 0 (·.slotCount)) traits b.own.entries u
  inherited : b.inherited = y.above.elim [] (·.tables)

theorem Bindings.OutlinedBy.later {b : Bindings} {y : Terms} {traits : List Trait} {u v : Store}
    (h : b.OutlinedBy y traits u) (le : u.functions.size ≤ v.functions.size)
    (kept : ∀ g : FunctionRef, g.index < u.functions.size → v.function g = u.function g) :
    b.OutlinedBy y traits v :=
  ⟨h.own.later le kept, h.inherited⟩

namespace BindingContext

variable {x : BindingContext} {y : Terms} {s : Store}

/-- A member that was bound looks as the terms say. -/
theorem Meets.outlined_bind (h : x.Meets y s) (used : UInt32) (m : Trait) :
    Outlined y used [m] [x.entry m ((x.bind (synthesize x.domain) used m).run s).1]
      ((x.bind (synthesize x.domain) used m).run s).2 := by
  obtain ⟨inside, stub⟩ := h.isStub_bind used m
  obtain ⟨_, supplied⟩ := x.bind_supplied m s used h.inside
  have slot := h.slot?_bind used m
  have overrides : x.isInherited m.key m.kind =
      y.above.any fun b => (b.lookup m.key m.kind).isSome := by
    rw [isInherited, h.parent]
    cases y.above <;> rfl
  generalize (x.bind (synthesize x.domain) used m).run s = r at inside stub supplied slot ⊢
  obtain ⟨b, u⟩ := r
  simp only at inside stub supplied slot ⊢
  refine ⟨fun e he => List.mem_singleton.mp he ▸ inside, congrArg (fun o => [o]) ?_⟩
  show MemberOutline.mk m.key m.name b.kind m.isNative (x.isInherited m.key b.kind) b.slot?
    (b.isStub u) = _
  rw [supplied.kind, slot, stub, overrides]
  rfl

/-- Members that differ in identity are added one after the other, as the terms say. -/
theorem Meets.foldlM_add {traits : List Trait} {table : BindingTable} (h : x.Meets y s)
    (coherent : table.Coherent)
    (nodup : (Bindings.ids table.entries ++ traits.map Trait.id).Nodup) :
    ∃ es,
      ((traits.foldlM (x.add (synthesize x.domain)) table).run s).1.entries = table.entries ++ es ∧
      Outlined y table.slotCount traits es
        ((traits.foldlM (x.add (synthesize x.domain)) table).run s).2 := by
  induction traits generalizing table s with
  | nil => exact ⟨[], (List.append_nil _).symm, fun _ he => absurd he List.not_mem_nil, rfl⟩
  | cons m ms ih =>
    rw [List.foldlM_cons, run_bind]
    have used := x.usedAfter_bind table.slotCount m s
    have first := h.outlined_bind table.slotCount m
    have id := x.id_entry_bind (synthesize x.domain) m s table.slotCount
    have new : m.id ∉ Bindings.ids table.entries := fun old =>
      (List.nodup_append.mp nodup).2.2 _ old _ List.mem_cons_self rfl
    obtain ⟨next, entries, slotCount⟩ := x.add_of_new (synthesize x.domain) m s coherent new
    obtain ⟨binds, _⟩ := x.bind_supplied m s table.slotCount h.inside
    rw [add_run] at next entries slotCount ⊢
    generalize (x.bind (synthesize x.domain) table.slotCount m).run s = r
      at used first id binds next entries slotCount ⊢
    obtain ⟨b, u⟩ := r
    simp only at used first id binds next entries slotCount ⊢
    generalize BindingTable.put _ (x.entry m b) = T at next entries slotCount ⊢
    have meets := h.binds binds
    have nodup' : (Bindings.ids T.entries ++ ms.map Trait.id).Nodup := by
      rw [entries, Bindings.ids, List.map_append, List.append_assoc, List.map_singleton, id]
      exact nodup
    obtain ⟨es, all, rest⟩ := ih meets next nodup'
    have later := (x.foldlM_add ms T u meets.inside).binds.confined
    refine ⟨x.entry m b :: es, by rw [all, entries, List.append_assoc]; rfl, ?_⟩
    refine (first.later later.functions_le fun g lt =>
      later.function g lt (Set.notMem_empty g)).append ?_
    rwa [slotCount, used] at rest

/-- The table of a set without repetition looks as the terms say; the tables further up are those
of the terms. -/
theorem Meets.build {traits : List Trait} (h : x.Meets y s) (nodup : (traits.map Trait.id).Nodup) :
    ((x.build traits).run s).1.OutlinedBy y traits ((x.build traits).run s).2 := by
  have start : x.start.slotCount = y.above.elim 0 (·.slotCount) := by
    rw [BindingContext.start, h.parent]
    cases y.above <;> rfl
  obtain ⟨es, entries, outlined⟩ := h.foldlM_add x.coherent_start nodup
  refine ⟨?_, ?_⟩
  · rw [start] at outlined
    exact (show ((x.build traits).run s).1.own.entries = es from entries) ▸ outlined
  · rw [BindingContext.build, x.inherited_buildBy, h.parent]

end BindingContext

/-! ### Installing a table -/

namespace Bindings

/-- Writing entries over others is the arrival of their identities. -/
theorem ids_foldl_overlay (es old : List BindingEntry) :
    ids (es.foldl overlay old) = (ids es).foldl arrive (ids old) := by
  induction es generalizing old with
  | nil => rfl
  | cons e es ih =>
    have first : ids (overlay old e) = arrive (ids old) e.id := by
      rw [ids_overlay, arrive]
      by_cases there : e.id ∈ ids old <;> simp [there]
    rw [List.foldl_cons, ih, first]
    rfl

/-- The identities of the flattened chain are those that the terms say. -/
theorem OutlinedBy.ids_flattened {b : Bindings} {y : Terms} {traits : List Trait} {u : Store}
    (h : b.OutlinedBy y traits u) : ids b.flattened = y.ids traits := by
  show ids (b.own.entries.foldl overlay (flattenTables b.inherited)) = _
  rw [ids_foldl_overlay, h.own.ids_eq, h.inherited, Terms.ids]
  cases y.above <;> rfl

variable (b : Bindings)

/-- The keys of the flattened chain, each as often as it has kinds. -/
def keys : List String := (ids b.flattened).map (·.1)

/-- Those of them that are to be appended to keys. -/
def appended (ks : List String) : List String := b.keys.filter (· ∉ ks)

theorem map_key_flattened : b.flattened.map (·.key) = b.keys := by
  rw [keys, ids, List.map_map]
  rfl

theorem map_key_pending (t : PropertyTable) :
    (b.pending .append t).map (·.key) = b.appended t.keys := by
  rw [appended, ← b.map_key_flattened, List.filter_map]
  rfl

theorem length_pending (t : PropertyTable) :
    (b.pending .append t).length = (b.appended t.keys).length := by
  rw [← b.map_key_pending, List.length_map]

variable {t : PropertyTable} (h : t.Agrees)
include h

theorem keys_applied_replace : (b.applied .replace t).keys = b.keys.foldl arrive t.keys := by
  rw [applied, pending, h.keys_foldl_install, b.map_key_flattened]

theorem keys_applied_append :
    (b.applied .append t).keys = (b.appended t.keys).foldl arrive t.keys := by
  rw [applied, h.keys_foldl_install, b.map_key_pending]

end Bindings

end ClassLink
