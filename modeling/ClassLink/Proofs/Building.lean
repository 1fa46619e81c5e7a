import ClassLink.Proofs.Footprint
import ClassLink.Proofs.Tables
import ClassLink.Proofs.Validity

/-!
# Building binding tables

What building the table of a trait set does. The store gets new functions, and the domain counts
the stubs among them (`Binds`); nothing else changes, so every member is resolved against the
same holders. Each member of the set is then found in the table, bound to what its declaration
and the holders say (`BindingContext.Supplied`): a native member that no holder implements to a
stub made for it, and to a stub for no other reason.

This is so with the synthesizer of the domain. What the entries of a table are does not depend on
what makes functions of bytecode: each stands for the member it was added for
(`BindingContext.add_overlays`).
-/

namespace ClassLink

/-! ### Resolution -/

namespace Trait

/-- The member is native and no holder implements it. -/
def isMissing (t : Trait) (s : Store) (holders : List ObjectRef) : Bool :=
  t.isNative && !t.isImplemented s holders

/-- A holder implements the member exactly if an implementation is found in it. -/
theorem isImplementedBy_eq (t : Trait) (s : Store) (holder : ObjectRef) :
    t.isImplementedBy s holder = (t.implementation? (s.properties holder)).isSome :=
  PropertyTable.hasFunction_eq ..

/-- Resolution finds an implementation exactly if some holder has one. -/
theorem isSome_resolve? (t : Trait) (s : Store) (holders : List ObjectRef) :
    (t.resolve? s holders).isSome = t.isImplemented s holders := by
  unfold resolve? isImplemented
  induction holders with
  | nil => rfl
  | cons h hs ih =>
    rw [List.findSome?_cons, List.any_cons, ← ih, isImplementedBy_eq]
    cases t.implementation? (s.properties h) <;> rfl

/-- Resolution reads the properties of the holders. -/
theorem resolve?_congr (t : Trait) {s u : Store} {holders : List ObjectRef}
    (h : ∀ o ∈ holders, u.properties o = s.properties o) :
    t.resolve? u holders = t.resolve? s holders := by
  unfold resolve?
  induction holders with
  | nil => rfl
  | cons o os ih =>
    rw [List.findSome?_cons, List.findSome?_cons, h o List.mem_cons_self,
      ih fun x hx => h x (List.mem_cons_of_mem _ hx)]

theorem isMissing_congr (t : Trait) {s u : Store} {holders : List ObjectRef}
    (h : ∀ o ∈ holders, u.properties o = s.properties o) :
    t.isMissing u holders = t.isMissing s holders := by
  unfold isMissing
  rw [← isSome_resolve?, ← isSome_resolve?, resolve?_congr t h]

end Trait

/-! ### What binding writes -/

/-- Members were bound: there are new functions, and `stubs` of them are counted as stubs. -/
structure Binds (d : DomainRef) (stubs : Nat) (s t : Store) : Prop where
  confined : Confined { Footprint.none with domains := {d} } s t
  objects : t.objects = s.objects
  classes : t.classes = s.classes
  diagnostics : (t.domain d).diagnostics = (s.domain d).diagnostics
  stats : (t.domain d).stats =
    { (s.domain d).stats with stubs := (s.domain d).stats.stubs + stubs }

namespace Binds

variable {d : DomainRef} {m n : Nat} {s t u : Store}

theorem refl (d : DomainRef) (s : Store) : Binds d 0 s s := ⟨.refl _ s, rfl, rfl, rfl, rfl⟩

theorem trans (h : Binds d m s t) (k : Binds d n t u) : Binds d (m + n) s u where
  confined := h.confined.trans k.confined
  objects := k.objects.trans h.objects
  classes := k.classes.trans h.classes
  diagnostics := k.diagnostics.trans h.diagnostics
  stats := by rw [k.stats, h.stats, Nat.add_assoc]

theorem newFunction (d : DomainRef) (s : Store) (f : Function) :
    Binds d 0 s ((newFunction f).run s).2 :=
  ⟨confined_newFunction _ s f, rfl, rfl, rfl, rfl⟩

theorem record (d : DomainRef) (s : Store) (r : LogRecord) : Binds d 0 s (s.record r) :=
  ⟨confined_record _ s r, rfl, rfl, rfl, rfl⟩

theorem countStub (lt : d.index < s.domains.size) : Binds d 1 s (s.modifyDomain d .countStub) := by
  refine ⟨confined_modifyDomain rfl _ fun _ => rfl, rfl, rfl, ?_, ?_⟩ <;>
    rw [Store.domain_modifyDomain, if_pos ⟨rfl, lt⟩] <;> rfl

end Binds

/-! ### Binding one member -/

namespace BindingContext

variable (x : BindingContext) (make : Synthesis) (t : Trait) (m : Method) (s : Store)

theorem bindFunction_of_resolved {f : FunctionRef} (native : t.isNative = true)
    (h : t.resolve? s x.holders = some f) : (x.bindFunction make t m).run s = (f, s) := by
  unfold bindFunction resolveBinding
  rw [if_pos native, run_bind, run_bind]
  simp only [get_run, h, pure_run]

/-- A native member without an implementation is logged twice, counted, and bound to a stub. -/
theorem bindFunction_of_missing (native : t.isNative = true)
    (h : t.resolve? s x.holders = none) :
    ∃ r r', (x.bindFunction make t m).run s =
      (newFunction (.unresolved t.name.display x.className)).run
        (((s.record r).record r').modifyDomain x.domain .countStub) := by
  unfold bindFunction resolveBinding
  rw [if_pos native, run_bind, run_bind]
  simp only [get_run, h]
  rw [run_bind, pure_run, log_run, run_bind, log_run, run_bind, modify_run]
  exact ⟨_, _, rfl⟩

theorem bindFunction_of_bytecode (native : t.isNative = false) :
    (x.bindFunction make t m).run s = (make m x.scope false).run s := by
  unfold bindFunction
  rw [native, if_neg Bool.false_ne_true]

theorem synthesize_run (d : DomainRef) (m : Method) (scope : Scope) (checksInit : Bool)
    (s : Store) : (synthesize d m scope checksInit).run s =
      (newFunction (.bytecode m scope checksInit ((s.domain d).synthesizer.entry m))).run s := rfl

/-- What a member is bound to when it is bound in `s`, as it is found in `u`. -/
structure Supplied (s u : Store) (t : Trait) (b : Binding) : Prop where
  kind : b.kind = t.kind
  /-- A missing member has a stub of its own. -/
  missing : t.isMissing s x.holders = true → ∃ g, b.function? = some g ∧
    s.functions.size ≤ g.index ∧ g.index < u.functions.size ∧
    u.function g = .unresolved t.name.display x.className
  /-- Any other native member has its implementation. -/
  implemented : t.isNative = true → t.isMissing s x.holders = false →
    b.function? = t.resolve? s x.holders
  /-- A member that is not native has a function of its own, which is no stub, or none. -/
  bytecode : t.isNative = false → ∀ g, b.function? = some g →
    s.functions.size ≤ g.index ∧ g.index < u.functions.size ∧ (u.function g).isUnresolved = false

variable {x t s}

theorem Supplied.mono {u v : Store} {b : Binding} {p : Footprint} (h : x.Supplied s u t b)
    (later : Confined p u v)
    (kept : ∀ g : FunctionRef, s.functions.size ≤ g.index → g ∉ p.functions) :
    x.Supplied s v t b where
  kind := h.kind
  missing e := by
    obtain ⟨g, hg, le, lt, stub⟩ := h.missing e
    exact ⟨g, hg, le, lt.trans_le later.functions_le, (later.function g lt (kept g le)).trans stub⟩
  implemented := h.implemented
  bytecode e g hg := by
    obtain ⟨le, lt, plain⟩ := h.bytecode e g hg
    exact ⟨le, lt.trans_le later.functions_le, by rw [later.function g lt (kept g le), plain]⟩

/-- A member bound after others were is bound as it would have been before them. -/
theorem Supplied.earlier {r u : Store} {n : Nat} {b : Binding} (h : x.Supplied s u t b)
    (first : Binds x.domain n r s) : x.Supplied r u t b := by
  have le := first.confined.functions_le
  have holders : ∀ o ∈ x.holders, s.properties o = r.properties o := fun o _ => by
    rw [Store.properties, Store.object, first.objects]
    rfl
  have missing := t.isMissing_congr holders
  refine ⟨h.kind, fun e => ?_, fun native e => ?_, fun e g hg => ?_⟩
  · obtain ⟨g, hg, ge, rest⟩ := h.missing (missing.trans e)
    exact ⟨g, hg, le.trans ge, rest⟩
  · exact (h.implemented native (missing.trans e)).trans (t.resolve?_congr holders)
  · obtain ⟨ge, rest⟩ := h.bytecode e g hg
    exact ⟨le.trans ge, rest⟩

section
variable (x : BindingContext) (t : Trait) (s : Store)

/-- The function of a member that runs code is as described, whatever the member is. -/
theorem bindFunction_supplied (m : Method) (lt : x.domain.index < s.domains.size)
    (b : FunctionRef → Binding) (kind : ∀ f, (b f).kind = t.kind)
    (function : ∀ f, (b f).function? = some f) :
    Binds x.domain (if t.isMissing s x.holders then 1 else 0) s
        ((x.bindFunction (synthesize x.domain) t m).run s).2 ∧
      x.Supplied s ((x.bindFunction (synthesize x.domain) t m).run s).2 t
        (b ((x.bindFunction (synthesize x.domain) t m).run s).1) := by
  cases native : t.isNative with
  | false =>
    have missing : t.isMissing s x.holders = false := by rw [Trait.isMissing, native]; rfl
    rw [x.bindFunction_of_bytecode _ t m s native, synthesize_run, missing]
    refine ⟨.newFunction .., kind _, fun e => absurd (missing.symm.trans e) Bool.false_ne_true,
      fun e => absurd (native.symm.trans e) Bool.false_ne_true, fun _ g hg => ?_⟩
    obtain rfl : ⟨s.functions.size⟩ = g := Option.some.inj ((function _).symm.trans hg)
    exact ⟨le_rfl, by simp, by rw [newFunction_function]; rfl⟩
  | true =>
    have missing : t.isMissing s x.holders = !(t.resolve? s x.holders).isSome := by
      rw [Trait.isMissing, native, Bool.true_and, Trait.isSome_resolve?]
    cases found : t.resolve? s x.holders with
    | some f =>
      rw [x.bindFunction_of_resolved _ t m s native found, missing, found]
      refine ⟨.refl .., kind _, fun e => ?_, fun _ _ => (function f).trans found.symm,
        fun e => absurd (e.symm.trans native) Bool.false_ne_true⟩
      rw [missing, found] at e
      cases e
    | none =>
      obtain ⟨r, r', run⟩ := x.bindFunction_of_missing (synthesize x.domain) t m s native found
      rw [run, missing, found]
      refine ⟨?_, kind _, fun _ => ⟨_, function _, le_rfl, ?_, newFunction_function ..⟩,
        fun _ e => ?_, fun e => absurd (e.symm.trans native) Bool.false_ne_true⟩
      · exact ((Binds.record x.domain s r).trans (.record ..)).trans
          ((Binds.countStub (s := (s.record r).record r') lt).trans (.newFunction ..))
      · exact lt_of_lt_of_eq (Nat.lt_succ_self _) (newFunction_size ..).symm
      · rw [missing, found] at e
        cases e

theorem bind_supplied (used : UInt32) (lt : x.domain.index < s.domains.size) :
    Binds x.domain (if t.isMissing s x.holders then 1 else 0) s
        ((x.bind (synthesize x.domain) used t).run s).2 ∧
      x.Supplied s ((x.bind (synthesize x.domain) used t).run s).2 t
        ((x.bind (synthesize x.domain) used t).run s).1 := by
  unfold bind
  cases h : t.declaration with
  | method m =>
    rw [run_bind, pure_run]
    exact x.bindFunction_supplied t s m lt .method (fun _ => by rw [Trait.kind, h]; rfl) fun _ => rfl
  | getter m =>
    rw [run_bind, pure_run]
    exact x.bindFunction_supplied t s m lt .getter (fun _ => by rw [Trait.kind, h]; rfl) fun _ => rfl
  | setter m =>
    rw [run_bind, pure_run]
    exact x.bindFunction_supplied t s m lt .setter (fun _ => by rw [Trait.kind, h]; rfl) fun _ => rfl
  | slot slot =>
    have native : t.isNative = false := by rw [Trait.isNative, Trait.method?, h]
    have missing : t.isMissing s x.holders = false := by rw [Trait.isMissing, native]; rfl
    rw [run_bind, get_run, pure_run, missing]
    exact ⟨.refl .., by rw [Trait.kind, h]; rfl,
      fun e => absurd (missing.symm.trans e) Bool.false_ne_true,
      fun e => absurd (native.symm.trans e) Bool.false_ne_true,
      fun _ g hg => absurd hg (by simp [Binding.function?])⟩

end

/-! ### Adding a member -/

section
variable (x : BindingContext) (make : Synthesis) (t : Trait) (s : Store)

theorem add_run (table : BindingTable) :
    (x.add make table t).run s =
      let r := (x.bind make table.slotCount t).run s
      ({ table with slotCount := usedAfter table.slotCount r.1 }.put (x.entry t r.1), r.2) :=
  rfl

/-- A member is bound as the kind that it is declared as. -/
theorem kind_bind (used : UInt32) : ((x.bind make used t).run s).1.kind = t.kind := by
  unfold bind Trait.kind
  cases t.declaration <;> rfl

theorem id_entry_bind (used : UInt32) : (x.entry t ((x.bind make used t).run s).1).id = t.id :=
  Prod.ext rfl (x.kind_bind make t s used)

/-- Adding a member writes its entry over those of the table, and its place, if it is a slot, is in
use. -/
theorem add_overlays {table : BindingTable} (coherent : table.Coherent) :
    ((x.add make table t).run s).1.Coherent ∧
      ((x.add make table t).run s).1.entries =
        Bindings.overlay table.entries (x.entry t ((x.bind make table.slotCount t).run s).1) ∧
      ((x.add make table t).run s).1.slotCount =
        usedAfter table.slotCount ((x.bind make table.slotCount t).run s).1 := by
  rw [add_run]
  generalize (x.bind make table.slotCount t).run s = r
  have coherent' := coherent.withSlotCount (usedAfter table.slotCount r.1)
  exact ⟨coherent'.put _, coherent'.entries_put _, BindingTable.slotCount_put _ _⟩

/-- A member that the table does not have comes last, and its place, if it is a slot, is in use. -/
theorem add_of_new {table : BindingTable} (coherent : table.Coherent)
    (new : t.id ∉ Bindings.ids table.entries) :
    ((x.add make table t).run s).1.Coherent ∧
      ((x.add make table t).run s).1.entries =
        table.entries ++ [x.entry t ((x.bind make table.slotCount t).run s).1] ∧
      ((x.add make table t).run s).1.slotCount =
        usedAfter table.slotCount ((x.bind make table.slotCount t).run s).1 := by
  obtain ⟨next, entries, used⟩ := x.add_overlays make t s coherent
  have id := x.id_entry_bind make t s table.slotCount
  exact ⟨next, entries.trans (Bindings.overlay_of_notMem (id ▸ new)), used⟩

theorem ids_add_of_new {table : BindingTable} (coherent : table.Coherent)
    (new : t.id ∉ Bindings.ids table.entries) :
    Bindings.ids ((x.add make table t).run s).1.entries = Bindings.ids table.entries ++ [t.id] := by
  rw [(x.add_of_new make t s coherent new).2.1, Bindings.ids, List.map_append, List.map_singleton,
    x.id_entry_bind make t s]
  rfl

end

/-! ### Building a table -/

section
variable (x : BindingContext)

/-- The entry is made for the member, from some binding of its kind. -/
def IsMade (t : Trait) (e : BindingEntry) : Prop := ∃ b : Binding, b.kind = t.kind ∧ e = x.entry t b

variable {x} {ts : List Trait}

/-- Entries that are made for members have their identities. -/
theorem ids_of_isMade {es : List BindingEntry} (made : List.Forall₂ x.IsMade ts es) :
    Bindings.ids es = ts.map Trait.id := by
  induction made with
  | nil => rfl
  | cons first _ ih =>
    obtain ⟨b, kind, rfl⟩ := first
    exact congrArg₂ List.cons (Prod.ext rfl kind) ih

/-- Adding members writes an entry for each, one after the other, over those of the table. -/
theorem foldlM_add_overlays (x : BindingContext) (make : Synthesis) (ts : List Trait)
    {table : BindingTable} (coherent : table.Coherent) (s : Store) :
    ((ts.foldlM (x.add make) table).run s).1.Coherent ∧
      ∃ es, ((ts.foldlM (x.add make) table).run s).1.entries =
          es.foldl Bindings.overlay table.entries ∧
        List.Forall₂ x.IsMade ts es := by
  induction ts generalizing table s with
  | nil => exact ⟨coherent, [], rfl, .nil⟩
  | cons t ts ih =>
    obtain ⟨next, entries, -⟩ := x.add_overlays make t s coherent
    have made : x.IsMade t (x.entry t ((x.bind make table.slotCount t).run s).1) :=
      ⟨_, x.kind_bind make t s _, rfl⟩
    obtain ⟨coherent', es, rest, mades⟩ := ih next ((x.add make table t).run s).2
    rw [List.foldlM_cons, run_bind]
    exact ⟨coherent', _ :: es, by rw [rest, entries, List.foldl_cons], .cons made mades⟩

end

theorem coherent_start (x : BindingContext) : x.start.Coherent := BindingTable.coherent_empty ..

section
variable (x : BindingContext) (make : Synthesis) (traits : List Trait) (s : Store)

theorem coherent_buildBy : ((x.buildBy make traits).run s).1.own.Coherent :=
  (x.foldlM_add_overlays make traits x.coherent_start s).1

/-- The tables further up are those of the parent. -/
theorem inherited_buildBy :
    ((x.buildBy make traits).run s).1.inherited = x.parent.elim [] (·.tables) := by
  obtain ⟨_, _, _, _, _, parent⟩ := x
  cases parent <;> rfl

end

/-! ### With the synthesizer of the domain -/

section
variable (x : BindingContext) (t : Trait) (s : Store)

/-- Members were added to a table. -/
structure Adds (traits : List Trait) (s u : Store) (old new : BindingTable) : Prop where
  binds : Binds x.domain (traits.countP (·.isMissing s x.holders)) s u
  coherent : old.Coherent → new.Coherent
  kept : old.Coherent → ∀ key kind, (key, kind) ∉ traits.map Trait.id →
    new.lookup key kind = old.lookup key kind
  supplied : old.Coherent → (traits.map Trait.id).Nodup → ∀ t ∈ traits, ∃ b,
    new.lookup t.key t.kind = some b ∧ x.Supplied s u t b

theorem add_adds (table : BindingTable) (lt : x.domain.index < s.domains.size) :
    x.Adds [t] s ((x.add (synthesize x.domain) table t).run s).2 table
      ((x.add (synthesize x.domain) table t).run s).1 := by
  rw [add_run]
  obtain ⟨binds, supplied⟩ := x.bind_supplied t s table.slotCount lt
  generalize (x.bind (synthesize x.domain) table.slotCount t).run s = r at binds supplied
  obtain ⟨b, u⟩ := r
  have id : (x.entry t b).id = t.id := Prod.ext rfl supplied.kind
  have same := fun old : table.Coherent => old.withSlotCount (usedAfter table.slotCount b)
  refine ⟨?_, fun old => (same old).put _, fun old key kind new => ?_, fun old _ t' ht => ?_⟩
  · simpa using binds
  · rw [(same old).lookup_put, id, if_neg fun e => new (by simp [e])]
    rfl
  · obtain rfl := List.mem_singleton.mp ht
    exact ⟨b, by rw [(same old).lookup_put, id]; exact if_pos rfl, supplied⟩

variable {x s}

theorem Adds.trans {ts us : List Trait} {u v : Store} {old mid new : BindingTable}
    (h : x.Adds ts s u old mid) (k : x.Adds us u v mid new) :
    x.Adds (ts ++ us) s v old new := by
  have holders : ∀ o ∈ x.holders, u.properties o = s.properties o := fun o _ => by
    rw [Store.properties, Store.object, h.binds.objects]
    rfl
  have count : us.countP (·.isMissing u x.holders) = us.countP (·.isMissing s x.holders) :=
    List.countP_congr fun t _ => by rw [t.isMissing_congr holders]
  refine ⟨?_, fun c => k.coherent (h.coherent c), fun c key kind out => ?_, fun c nodup t ht => ?_⟩
  · rw [List.countP_append, ← count]
    exact h.binds.trans k.binds
  · rw [List.map_append, List.mem_append, not_or] at out
    rw [k.kept (h.coherent c) key kind out.2, h.kept c key kind out.1]
  · rw [List.map_append, List.nodup_append] at nodup
    obtain ⟨left, right, apart⟩ := nodup
    rcases List.mem_append.mp ht with ht | ht
    · obtain ⟨b, found, supplied⟩ := h.supplied c left t ht
      refine ⟨b, ?_, supplied.mono k.binds.confined fun _ _ => Set.notMem_empty _⟩
      rw [← found]
      exact k.kept (h.coherent c) t.key t.kind fun again =>
        apart t.id (List.mem_map_of_mem ht) t.id again rfl
    · obtain ⟨b, found, supplied⟩ := k.supplied (h.coherent c) right t ht
      exact ⟨b, found, supplied.earlier h.binds⟩

end

theorem foldlM_add (x : BindingContext) (traits : List Trait) (table : BindingTable) (s : Store)
    (lt : x.domain.index < s.domains.size) :
    x.Adds traits s ((traits.foldlM (x.add (synthesize x.domain)) table).run s).2 table
      ((traits.foldlM (x.add (synthesize x.domain)) table).run s).1 := by
  induction traits generalizing table s with
  | nil =>
    exact ⟨.refl .., fun c => c, fun _ _ _ _ => rfl, fun _ _ _ ht => absurd ht List.not_mem_nil⟩
  | cons t ts ih =>
    have first := x.add_adds t s table lt
    rw [List.foldlM_cons, run_bind]
    exact first.trans (ih _ _ (first.binds.confined.domains_eq ▸ lt))

/-- **Building a table.** The members of a set without repetition are all found in the table,
bound as the holders say, and a stub is counted for each missing one. -/
theorem build_spec (x : BindingContext) (traits : List Trait) (s : Store)
    (lt : x.domain.index < s.domains.size) :
    Binds x.domain (traits.countP (·.isMissing s x.holders)) s ((x.build traits).run s).2 ∧
      ((x.build traits).run s).1.own.Coherent ∧
      ((traits.map Trait.id).Nodup → ∀ t ∈ traits, ∃ b,
        ((x.build traits).run s).1.lookupOwn t.key t.kind = some b ∧
          x.Supplied s ((x.build traits).run s).2 t b) := by
  have adds := x.foldlM_add traits x.start s lt
  exact ⟨adds.binds, adds.coherent x.coherent_start, adds.supplied x.coherent_start⟩

end BindingContext

end ClassLink
