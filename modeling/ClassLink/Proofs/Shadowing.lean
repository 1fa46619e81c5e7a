import ClassLink.Proofs.Hierarchy
import Mathlib.Data.List.Induction
import Mathlib.Data.List.TakeWhile

/-!
# What is shown of a key that a chain of tables declares

Tables tell members apart by key and kind, but an object has one property for a key. So when a
chain of tables is installed on an object, the members of one key meet there, and a later one
leaves nothing of an earlier one unless they are the two halves of an accessor. They are
installed in the order in which the kinds are first declared, those further up first, whatever
the order of their nearest declarations. A nearest declaration is therefore shown exactly if
every kind that would overwrite it is first declared before its own (`Prevails`). If it is not,
an inherited member of another kind is shown in its place.
-/

namespace ClassLink

/-! ### One key of an object -/

namespace MemberKind

/-- The member is one half of an accessor. -/
def isAccessor : MemberKind → Bool
  | .getter | .setter => true
  | .method | .slot => false

theorem isAccessor_iff {k : MemberKind} : k.isAccessor = true ↔ k ∈ [getter, setter] := by
  cases k <;> decide

/-- Installing a member of the one kind leaves nothing of a member of the other. -/
def overwrites (k k' : MemberKind) : Bool := k ≠ k' && !(k.isAccessor && k'.isAccessor)

theorem overwrites_self (k : MemberKind) : k.overwrites k = false := by cases k <;> rfl

theorem overwrites_of_isAccessor {k k' : MemberKind} (h : k.isAccessor = true)
    (h' : k'.isAccessor = true) : k.overwrites k' = false := by
  rw [overwrites, h, h', Bool.true_and, Bool.not_true, Bool.and_false]

end MemberKind

namespace Binding

/-- What installing a member makes of the property under its key. -/
def written (b : Binding) (p : Option Property) : Property :=
  match b with
  | .method f => .data (.function f) false
  | .getter f => .accessor (some f) (p.bind Property.setter?)
  | .setter f => .accessor (p.bind Property.getter?) (some f)
  | .slot _ initial _ => .data initial true

/-- The property under a key is what the member makes of it, the other half of an accessor
apart. -/
def IsShown (b : Binding) (p : Option Property) : Prop :=
  match b with
  | .method f => p = some (.data (.function f) false)
  | .getter f => p.bind Property.getter? = some f
  | .setter f => p.bind Property.setter? = some f
  | .slot _ initial _ => p = some (.data initial true)

instance (b : Binding) (p : Option Property) : Decidable (b.IsShown p) :=
  match b with
  | .method f => inferInstanceAs (Decidable (p = some (.data (.function f) false)))
  | .getter f => inferInstanceAs (Decidable (p.bind Property.getter? = some f))
  | .setter f => inferInstanceAs (Decidable (p.bind Property.setter? = some f))
  | .slot _ initial _ => inferInstanceAs (Decidable (p = some (.data initial true)))

theorem isShown_written (b : Binding) (p : Option Property) : b.IsShown (some (b.written p)) := by
  cases b <;> rfl

/-- A member stays shown unless one is installed that overwrites it. -/
theorem isShown_written_iff {b c : Binding} (ne : c.kind ≠ b.kind) (p : Option Property) :
    b.IsShown (some (c.written p)) ↔ b.IsShown p ∧ c.kind.overwrites b.kind = false := by
  cases b <;> cases c <;>
    simp_all [IsShown, written, kind, MemberKind.overwrites, MemberKind.isAccessor,
      Property.getter?, Property.setter?]

end Binding

/-- Installing a member writes what it makes of the property under its key. -/
theorem PropertyTable.install_eq_put (t : PropertyTable) (e : BindingEntry) :
    t.install e = t.put e.key (e.binding.written (t.get? e.key)) := by
  unfold install
  cases e.binding <;> rfl

/-- Installing a member changes the property under its key. -/
theorem PropertyTable.get?_install (t : PropertyTable) (e : BindingEntry) (key : String) :
    (t.install e).get? key =
      if key = e.key then some (e.binding.written (t.get? key)) else t.get? key := by
  rw [install_eq_put, get?_put]
  split
  · rename_i same
    rw [same]
  · rfl

/-- What members make, one after the other, of the property under their key. -/
def writtenAll (es : List BindingEntry) (p : Option Property) : Option Property :=
  es.foldl (fun p e => some (e.binding.written p)) p

theorem writtenAll_concat (es : List BindingEntry) (p : Option Property) (e : BindingEntry) :
    writtenAll (es ++ [e]) p = some (e.binding.written (writtenAll es p)) := by
  rw [writtenAll, List.foldl_append]
  rfl

/-- The property under a key depends on the members of this key. -/
theorem PropertyTable.get?_foldl_install (es : List BindingEntry) (t : PropertyTable)
    (key : String) :
    (es.foldl install t).get? key = writtenAll (es.filter (·.key = key)) (t.get? key) := by
  induction es generalizing t with
  | nil => rfl
  | cons e es ih =>
    rw [List.foldl_cons, ih, get?_install]
    by_cases same : e.key = key
    · rw [List.filter_cons_of_pos (by simpa using same), if_pos same.symm]
      rfl
    · rw [List.filter_cons_of_neg (by simpa using same), if_neg (Ne.symm same)]

/-! ### The order of kinds -/

/-- In a list of declarations, given by their kinds, each kind that overwrites `k` is declared
before `k` first is. -/
def Prevails (kinds : List MemberKind) (k : MemberKind) : Prop :=
  ∀ k' ∈ kinds, k'.overwrites k = true → k' ∈ kinds.takeWhile (· != k)

instance (kinds : List MemberKind) (k : MemberKind) : Decidable (Prevails kinds k) :=
  inferInstanceAs (Decidable (∀ k' ∈ kinds, k'.overwrites k = true → k' ∈ kinds.takeWhile (· != k)))

section
variable {ks ls : List MemberKind} {k k' : MemberKind}

theorem takeWhile_of_notMem (h : k ∉ ks) : ks.takeWhile (· != k) = ks := by
  rw [List.takeWhile_eq_self_iff]
  intro a ha
  simpa using fun e : a = k => h (e ▸ ha)

/-- What stands before the first occurrence in a list is not changed by what follows it. -/
theorem mem_takeWhile_append :
    k' ∈ (ks ++ ls).takeWhile (· != k) ↔
      k' ∈ ks.takeWhile (· != k) ∨ k ∉ ks ∧ k' ∈ ls.takeWhile (· != k) := by
  induction ks with
  | nil => simp
  | cons a ks ih =>
    by_cases same : a = k
    · simp [same]
    · simp [same, ih, Ne.symm same, or_assoc]

theorem mem_takeWhile_of_notMem (h : k ∉ ks) : k' ∈ ks.takeWhile (· != k) ↔ k' ∈ ks := by
  rw [takeWhile_of_notMem h]

/-- A kind comes to stand at the end. -/
theorem prevails_concat (h : k ∈ ks) :
    Prevails (ks ++ [k']) k ↔
      Prevails ks k ∧ (k'.overwrites k = true → k' ∈ ks.takeWhile (· != k)) := by
  simp only [Prevails, mem_takeWhile_append, h, not_true_eq_false, false_and, or_false,
    List.mem_append, List.mem_singleton, or_imp, forall_and, forall_eq]

/-- Nothing overwrites what is declared last. -/
theorem prevails_last (h : k ∉ ks) : Prevails (ks ++ [k]) k := by
  intro k' hk' wins
  rw [mem_takeWhile_append, mem_takeWhile_of_notMem h]
  rcases List.mem_append.mp hk' with old | last
  · exact .inl old
  · obtain rfl := List.mem_singleton.mp last
    cases k' <;> cases wins

end

/-! ### Installing the members of one key -/

/-- **The members of one key.** Of members of different kinds that are installed one after the
other, one is shown in the end exactly if none that overwrites it comes later. -/
theorem isShown_writtenAll_iff {es : List BindingEntry} (nodup : (es.map (·.kind)).Nodup)
    {e : BindingEntry} (he : e ∈ es) (p : Option Property) :
    e.binding.IsShown (writtenAll es p) ↔ Prevails (es.map (·.kind)) e.kind := by
  -- the last member installed decides
  induction es using List.reverseRecOn with
  | nil => exact absurd he List.not_mem_nil
  | append_singleton es x ih =>
    rw [List.map_append, List.map_singleton] at nodup ⊢
    rw [writtenAll_concat]
    obtain ⟨first, _, apart⟩ := List.nodup_append.mp nodup
    have new : x.kind ∉ es.map (·.kind) := fun h => apart _ h _ List.mem_cons_self rfl
    rcases List.mem_append.mp he with old | last
    · have mem := List.mem_map_of_mem (f := (·.kind)) old
      have ne : x.kind ≠ e.kind := fun same => new (same ▸ mem)
      have out : x.kind ∉ (es.map (·.kind)).takeWhile (· != e.kind) :=
        fun h => new ((List.takeWhile_sublist _).subset h)
      rw [Binding.isShown_written_iff ne, ih first old, prevails_concat mem]
      refine and_congr_right fun _ => ?_
      show x.kind.overwrites e.kind = false ↔ _
      simp only [out, imp_false, Bool.not_eq_true]
    · obtain rfl := List.mem_singleton.mp last
      exact iff_of_true (Binding.isShown_written ..) (prevails_last new)

namespace Bindings

/-! ### The flattened chain -/

/-- Flattening writes the declarations of a chain over each other, those further up first. -/
theorem flattenTables_eq (ts : List BindingTable) :
    flattenTables ts = (ts.reverse.flatMap (·.entries)).foldl overlay [] := by
  induction ts with
  | nil => rfl
  | cons t ts ih =>
    rw [flattenTables, ih, List.reverse_cons, List.flatMap_append, List.foldl_append]
    simp

variable {es old : List BindingEntry} {e x : BindingEntry} {key : String}

theorem filter_overlay (es : List BindingEntry) (e : BindingEntry) (key : String) :
    (overlay es e).filter (·.key = key) =
      if e.key = key then overlay (es.filter (·.key = key)) e else es.filter (·.key = key) := by
  induction es with
  | nil => by_cases h : e.key = key <;> simp [overlay, h]
  | cons x xs ih =>
    by_cases same : x.id = e.id
    · have keys : x.key = e.key := congrArg Prod.fst same
      by_cases h : e.key = key <;> simp [overlay, same, keys, h]
    · by_cases h : x.key = key <;> by_cases h' : e.key = key <;> simp_all [overlay]

/-- The members of a key are those that its declarations leave. -/
theorem filter_foldl_overlay (es old : List BindingEntry) (key : String) :
    (es.foldl overlay old).filter (·.key = key) =
      (es.filter (·.key = key)).foldl overlay (old.filter (·.key = key)) := by
  induction es generalizing old with
  | nil => rfl
  | cons e es ih =>
    rw [List.foldl_cons, ih, filter_overlay]
    by_cases h : e.key = key
    · rw [if_pos h, List.filter_cons_of_pos (by simpa using h), List.foldl_cons]
    · rw [if_neg h, List.filter_cons_of_neg (by simpa using h)]

theorem mem_overlay_self (es : List BindingEntry) (e : BindingEntry) : e ∈ overlay es e := by
  induction es with
  | nil => exact List.mem_singleton_self e
  | cons x xs ih =>
    rw [overlay]
    split
    · exact List.mem_cons_self
    · exact List.mem_cons_of_mem _ ih

theorem mem_overlay_of_mem (h : e ∈ es) (ne : e.id ≠ x.id) : e ∈ overlay es x := by
  induction es with
  | nil => exact absurd h List.not_mem_nil
  | cons y ys ih =>
    rw [overlay]
    rcases List.mem_cons.mp h with rfl | h
    · rw [if_neg ne]
      exact List.mem_cons_self
    · split
      · exact List.mem_cons_of_mem _ h
      · exact List.mem_cons_of_mem _ (ih h)

/-- A declaration that is not repeated stays. -/
theorem mem_foldl_overlay_of_notMem (h : e ∈ old) (apart : e.id ∉ ids es) :
    e ∈ es.foldl overlay old := by
  induction es generalizing old with
  | nil => exact h
  | cons x es ih =>
    obtain ⟨head, tail⟩ := not_or.mp (mt List.mem_cons.mpr (show e.id ∉ x.id :: ids es from apart))
    exact ih (mem_overlay_of_mem h head) tail

/-- The declarations that come last, each member once, all stay. -/
theorem mem_foldl_overlay (nodup : (ids es).Nodup) (h : e ∈ es) (old : List BindingEntry) :
    e ∈ es.foldl overlay old := by
  induction es generalizing old with
  | nil => exact absurd h List.not_mem_nil
  | cons x es ih =>
    obtain ⟨apart, rest⟩ := List.nodup_cons.mp (show (x.id :: ids es).Nodup from nodup)
    rcases List.mem_cons.mp h with rfl | h
    · show e ∈ es.foldl overlay (overlay old e)
      exact mem_foldl_overlay_of_notMem (mem_overlay_self old e) apart
    · exact ih rest h _

theorem mem_of_mem_overlay (h : e ∈ overlay es x) : e = x ∨ e ∈ es := by
  induction es with
  | nil => exact .inl (List.mem_singleton.mp h)
  | cons y ys ih =>
    rw [overlay] at h
    split at h <;> rcases List.mem_cons.mp h with rfl | h
    · exact .inl rfl
    · exact .inr (List.mem_cons_of_mem _ h)
    · exact .inr List.mem_cons_self
    · exact (ih h).imp_right (List.mem_cons_of_mem _)

theorem mem_of_mem_foldl_overlay (h : e ∈ es.foldl overlay old) : e ∈ old ∨ e ∈ es := by
  induction es generalizing old with
  | nil => exact .inl h
  | cons x es ih =>
    rcases ih h with h | h
    · exact (mem_of_mem_overlay h).elim (fun same => .inr (same ▸ List.mem_cons_self)) .inl
    · exact .inr (List.mem_cons_of_mem _ h)

/-! Declarations of one key that are written over each other keep which kinds there are, and which
of them are first declared before a kind. -/

/-- A member of a kind that is there takes its place, any other comes last. -/
theorem kinds_overlay (one : ∀ y ∈ es, y.key = x.key) :
    (overlay es x).map (·.kind) =
      if x.kind ∈ es.map (·.kind) then es.map (·.kind) else es.map (·.kind) ++ [x.kind] := by
  have kinds : ∀ l : List BindingEntry, l.map (·.kind) = (ids l).map Prod.snd := fun l => by
    rw [ids, List.map_map]
    rfl
  have mem : x.id ∈ ids es ↔ x.kind ∈ es.map (·.kind) := by
    refine ⟨fun h => ?_, fun h => ?_⟩
    · rw [kinds]
      exact List.mem_map_of_mem (f := Prod.snd) h
    · obtain ⟨y, hy, same⟩ := List.mem_map.mp h
      exact List.mem_map.mpr ⟨y, hy, Prod.ext (one y hy) same⟩
  rw [kinds (overlay es x), ids_overlay, kinds es]
  rw [kinds es] at mem
  by_cases h : x.id ∈ ids es
  · rw [if_pos h, if_pos (mem.mp h)]
  · rw [if_neg h, if_neg (mt mem.mpr h), List.map_append]
    rfl

theorem key_foldl_overlay (one : ∀ y ∈ es, y.key = key) :
    ∀ y ∈ es.foldl overlay [], y.key = key := fun y hy =>
  (mem_of_mem_foldl_overlay hy).elim (fun h => absurd h List.not_mem_nil) (one y)

theorem kinds_foldl_overlay_concat (one : ∀ y ∈ es ++ [x], y.key = key) :
    ((es ++ [x]).foldl overlay []).map (·.kind) =
      if x.kind ∈ (es.foldl overlay []).map (·.kind) then (es.foldl overlay []).map (·.kind)
      else (es.foldl overlay []).map (·.kind) ++ [x.kind] := by
  have old := key_foldl_overlay fun y hy => one y (List.mem_append_left _ hy)
  have new : x.key = key := one x (List.mem_append_right _ List.mem_cons_self)
  rw [List.foldl_append, List.foldl_cons, List.foldl_nil]
  exact kinds_overlay fun y hy => (old y hy).trans new.symm

section
variable (one : ∀ y ∈ es, y.key = key)
include one

theorem mem_kinds_foldl_overlay (k : MemberKind) :
    k ∈ (es.foldl overlay []).map (·.kind) ↔ k ∈ es.map (·.kind) := by
  induction es using List.reverseRecOn with
  | nil => rfl
  | append_singleton es x ih =>
    have rest := ih fun y hy => one y (List.mem_append_left _ hy)
    rw [kinds_foldl_overlay_concat one, List.map_append, List.mem_append, ← rest]
    split
    · rename_i old
      refine ⟨.inl, fun h => h.elim id fun h => ?_⟩
      rw [List.mem_singleton.mp h]
      exact old
    · exact List.mem_append

theorem mem_before_foldl_overlay (k k' : MemberKind) :
    k' ∈ ((es.foldl overlay []).map (·.kind)).takeWhile (· != k) ↔
      k' ∈ (es.map (·.kind)).takeWhile (· != k) := by
  induction es using List.reverseRecOn with
  | nil => rfl
  | append_singleton es x ih =>
    have one₁ : ∀ y ∈ es, y.key = key := fun y hy => one y (List.mem_append_left _ hy)
    have rest := ih one₁
    have mem := mem_kinds_foldl_overlay one₁
    rw [kinds_foldl_overlay_concat one, List.map_append, mem_takeWhile_append, ← rest, ← mem]
    split
    · rename_i old
      refine ⟨.inl, fun h => h.elim id fun ⟨out, h⟩ => ?_⟩
      -- the kind is not there yet, so everything that is stands before it
      rw [mem_takeWhile_of_notMem out]
      rw [List.mem_singleton.mp ((List.takeWhile_sublist _).subset h)]
      exact old
    · exact mem_takeWhile_append

/-- What prevails among the declarations prevails among the members they leave. -/
theorem prevails_foldl_overlay (k : MemberKind) :
    Prevails ((es.foldl overlay []).map (·.kind)) k ↔ Prevails (es.map (·.kind)) k := by
  simp only [Prevails, mem_kinds_foldl_overlay one, mem_before_foldl_overlay one]

end

theorem nodup_ids_foldl_overlay (h : (ids old).Nodup) (es : List BindingEntry) :
    (ids (es.foldl overlay old)).Nodup := by
  induction es generalizing old with
  | nil => exact h
  | cons e es ih => exact ih (nodup_ids_overlay h e)

/-- Members of one key differ in kind. -/
theorem nodup_kinds (one : ∀ y ∈ es, y.key = key) (nodup : (ids es).Nodup) :
    (es.map (·.kind)).Nodup := by
  refine List.Nodup.map_on (fun y hy z hz same => ?_) (List.Nodup.of_map _ nodup)
  exact List.inj_on_of_nodup_map nodup hy hz (Prod.ext ((one y hy).trans (one z hz).symm) same)

/-! ### Chains of tables -/

/-- The declarations of a key in a chain of tables, those further up first. -/
def declarations (b : Bindings) (key : String) : List BindingEntry :=
  (b.tables.reverse.flatMap (·.entries)).filter (·.key = key)

theorem key_declarations (b : Bindings) : ∀ y ∈ b.declarations key, y.key = key := fun y hy => by
  simpa using (List.mem_filter.mp hy).2

/-- A chain of tables made by building one table after the other, each over those before, with
whatever makes functions of bytecode. -/
inductive Built : Bindings → Prop
  | root {x : BindingContext} {make : Synthesis} {traits : List Trait} {s : Store} :
      x.parent = none → Built ((x.buildBy make traits).run s).1
  | derived {x : BindingContext} {make : Synthesis} {traits : List Trait} {s : Store}
      {b : Bindings} : Built b → x.parent = some b → Built ((x.buildBy make traits).run s).1

theorem tables_buildBy (x : BindingContext) (make : Synthesis) (traits : List Trait) (s : Store) :
    ((x.buildBy make traits).run s).1.tables =
      ((x.buildBy make traits).run s).1.own :: (x.parent.map (·.tables)).getD [] := by
  rw [Bindings.tables, x.inherited_buildBy]
  cases x.parent <;> rfl

/-- The tables of a chain are coherent. -/
theorem Built.coherent {b : Bindings} (h : b.Built) : ∀ t ∈ b.tables, t.Coherent := by
  induction h with
  | @root x make traits s parent =>
    rw [tables_buildBy, parent]
    intro t ht
    rw [List.mem_singleton.mp ht]
    exact x.coherent_buildBy make traits s
  | @derived x make traits s b _ parent ih =>
    rw [tables_buildBy, parent]
    intro t ht
    rcases List.mem_cons.mp ht with rfl | ht
    · exact x.coherent_buildBy make traits s
    · exact ih t ht

end Bindings

/-- The table declares the key, under any kind. -/
def BindingTable.declares (t : BindingTable) (key : String) : Bool :=
  t.entries.any (·.key = key)

namespace Bindings

variable {b : Bindings} {key : String} {T : BindingTable} {e : BindingEntry}

/-- What the nearest table that declares a key says of it comes last. -/
theorem declarations_of_nearest (nearest : b.tables.find? (·.declares key) = some T) :
    ∃ es, b.declarations key = es ++ T.entries.filter (·.key = key) := by
  obtain ⟨_, near, far, split, silent⟩ := List.find?_eq_some_iff_append.mp nearest
  have none : (near.reverse.flatMap (·.entries)).filter (·.key = key) = [] := by
    rw [List.filter_eq_nil_iff]
    intro x hx declared
    obtain ⟨t, ht, mem⟩ := List.mem_flatMap.mp hx
    have out := silent t (List.mem_reverse.mp ht)
    have declares : t.declares key = true := List.any_eq_true.mpr ⟨x, mem, declared⟩
    rw [declares] at out
    cases out
  refine ⟨(far.reverse.flatMap (·.entries)).filter (·.key = key), ?_⟩
  rw [declarations, split, List.reverse_append, List.reverse_cons, List.flatMap_append,
    List.flatMap_append, List.filter_append, List.filter_append, none, List.append_nil]
  simp

/-- The members of a key are what its declarations leave of each other. -/
theorem filter_flattened (b : Bindings) (key : String) :
    b.flattened.filter (·.key = key) = (b.declarations key).foldl overlay [] := by
  rw [flattened, flattenTables_eq, filter_foldl_overlay]
  rfl

/-- Members of one key that are installed differ in kind. -/
theorem nodup_kinds_flattened (b : Bindings) (key : String) :
    ((b.flattened.filter (·.key = key)).map (·.kind)).Nodup := by
  rw [filter_flattened]
  exact nodup_kinds (key_foldl_overlay b.key_declarations)
    (nodup_ids_foldl_overlay (show (ids []).Nodup from List.nodup_nil) _)

/-- A declaration of the nearest table is installed. -/
theorem mem_flattened (h : b.Built) (nearest : b.tables.find? (·.declares key) = some T)
    (he : e ∈ T.entries) (hk : e.key = key) : e ∈ b.flattened.filter (·.key = key) := by
  have coherent := h.coherent T (List.mem_of_find?_eq_some nearest)
  obtain ⟨es, split⟩ := declarations_of_nearest nearest
  have nodup : (ids (T.entries.filter (·.key = key))).Nodup :=
    coherent.nodup.sublist (List.filter_sublist.map _)
  rw [filter_flattened, split, List.foldl_append]
  exact mem_foldl_overlay nodup (List.mem_filter.mpr ⟨he, by simpa using hk⟩) _

theorem isShown_applied_iff (h : b.Built) (nearest : b.tables.find? (·.declares key) = some T)
    (he : e ∈ T.entries) (hk : e.key = key) :
    e.binding.IsShown ((b.applied .replace .empty).get? key) ↔
      Prevails ((b.declarations key).map (·.kind)) e.kind := by
  have mem := mem_flattened h nearest he hk
  rw [applied, pending, PropertyTable.get?_foldl_install,
    isShown_writtenAll_iff (nodup_kinds_flattened b key) mem, filter_flattened,
    prevails_foldl_overlay b.key_declarations]

/-- **What is shown of a key.** A chain of tables is installed on an object without properties. A
declaration of the nearest table that declares a key is shown exactly if every kind of the chain
that would overwrite it is first declared before its own. -/
theorem isShown_applyTo_iff (h : b.Built) (nearest : b.tables.find? (·.declares key) = some T)
    (he : e ∈ T.entries) (hk : e.key = key) (d : DomainRef) {o : ObjectRef} {s : Store}
    (inside : o.index < s.objects.size) (bare : s.properties o = .empty) :
    e.binding.IsShown ((((b.applyTo d o .replace).run s).2.properties o).get? key) ↔
      Prevails ((b.declarations key).map (·.kind)) e.kind := by
  have installed : ((b.applyTo d o .replace).run s).2.properties o = b.applied .replace .empty := by
    rw [← bare, applyTo_run]
    show ((s.modifyProperties o (b.applied .replace)).object o).properties = _
    rw [Store.modifyProperties, Store.object_modifyObject, if_pos ⟨rfl, inside⟩]
    rfl
  rw [installed]
  exact isShown_applied_iff h nearest he hk

end Bindings

/-! ### Two tables -/

namespace Sample

/-- What tables are built in, over others or over none. -/
def tableContext (className : String) (parent : Option Bindings) : BindingContext :=
  ⟨⟨0⟩, .instance, className, .global ⟨0⟩, [], parent⟩

/-- The chain of a table over another one. -/
def chain (base derived : List Trait) : Bindings :=
  let first := ((tableContext "Base" none).build base).run opened
  (((tableContext "Derived" (some first.1)).build derived).run first.2).1

theorem built_chain (base derived : List Trait) : (chain base derived).Built :=
  .derived (.root (x := tableContext "Base" none) rfl) rfl

/-- A method of bytecode. -/
def methodK (index : UInt32) : Trait := ⟨.plain "k", .method (.bytecode index none 0)⟩

/-- A getter of bytecode of the same name. -/
def getterK (index : UInt32) : Trait := ⟨.plain "k", .getter (.bytecode index none 0)⟩

/-- A setter of bytecode of the same name. -/
def setterK (index : UInt32) : Trait := ⟨.plain "k", .setter (.bytecode index none 1)⟩

/-- A slot of the same name. -/
def slotK : Trait := ⟨.plain "k", .slot ⟨0, none, some (.int 7), false⟩⟩

end Sample

/-- A getter is declared over an inherited getter that comes after a slot: it is shown. -/
theorem isShown_applyTo_iff_getter :
    let b := Sample.chain [Sample.slotK, Sample.getterK 1] [Sample.getterK 2]
    ∃ e ∈ b.own.entries, e.kind = .getter ∧ e.binding.IsShown
      ((((b.applyTo ⟨0⟩ ⟨0⟩ .replace).run Sample.opened).2.properties ⟨0⟩).get? "k") := by
  intro b
  have nearest : b.tables.find? (·.declares "k") = some b.own := by decide +kernel
  have declared : (⟨"k", .plain "k", .getter ⟨1⟩, false, true⟩ : BindingEntry) ∈ b.own.entries := by
    decide +kernel
  refine ⟨_, declared, rfl, (Bindings.isShown_applyTo_iff (Sample.built_chain _ _) nearest declared
    rfl ⟨0⟩ (by decide +kernel) (by decide +kernel)).mpr (by decide +kernel)⟩

/-- A method is declared over an inherited method that comes before a slot: the slot is shown, and
the object has no method under the key. -/
theorem method?_applyTo_none :
    let b := Sample.chain [Sample.methodK 1, Sample.slotK] [Sample.methodK 2]
    b.Built ∧ b.tables.find? (·.declares "k") = some b.own ∧
      (b.own.entries.filter (·.key = "k")).map (·.binding) = [.method ⟨1⟩] ∧
      Sample.opened.properties ⟨0⟩ = .empty ∧
      (((b.applyTo ⟨0⟩ ⟨0⟩ .replace).run Sample.opened).2.properties ⟨0⟩).method? "k" = none := by
  refine ⟨Sample.built_chain _ _, ?_, ?_, ?_, ?_⟩ <;> decide +kernel

end ClassLink
