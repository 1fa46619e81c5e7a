import ClassLink.Proofs.KeyLists
import ClassLink.Proofs.Shadowing

/-!
# Appending members

Installing members that an object does not own yet leaves what it owns alone: its keys come first,
in the same order and with the same properties, and further keys follow (`PropertyTable.Extends`).
Appending a chain of tables installs just those members, provided that the list of the object's
keys, which is asked for them, agrees with its properties; every operation on properties keeps it
so, and so does linking (`Linking.agrees`). Installing a member reads and writes its own key only,
so what is left out does not show in the rest: appending adds what the whole chain gives to an
object without properties, less the keys that the object owns (`Bindings.applied_append`). The
halves of an accessor have one key, so both of them are added or neither is; afterwards the object
owns every key of the chain, those that it owned before included. -/

namespace ClassLink

namespace PropertyTable

/-- The keys of `t` come first in `u`, with their properties; other keys follow. -/
def Extends (t u : PropertyTable) : Prop :=
  ∃ new, u.keys = t.keys ++ new ∧ (∀ key ∈ new, t.contains key = false) ∧
    ∀ key, key ∉ new → u.get? key = t.get? key

variable {t u v : PropertyTable} {key : String} {p : Property}

/-- Whatever agrees extends what has no properties. -/
theorem Agrees.empty_extends (h : t.Agrees) : PropertyTable.empty.Extends t :=
  ⟨t.keys, rfl, fun _ _ => rfl, fun _ new => h.notMem_iff.mp new⟩

namespace Extends

theorem refl (t : PropertyTable) : t.Extends t := ⟨[], (List.append_nil _).symm, by simp, by simp⟩

theorem get? (h : t.Extends u) (owned : t.get? key = some p) : u.get? key = some p := by
  obtain ⟨new, _, apart, kept⟩ := h
  refine (kept key fun arrived => ?_).trans owned
  rw [contains_eq_false_iff.mp (apart key arrived)] at owned
  cases owned

theorem contains (h : t.Extends u) (owned : t.contains key = true) : u.contains key = true := by
  obtain ⟨p, hp⟩ := Option.isSome_iff_exists.mp owned
  exact contains_of_get? (h.get? hp)

theorem trans (h : t.Extends u) (k : u.Extends v) : t.Extends v := by
  obtain ⟨new, keys, apart, kept⟩ := h
  obtain ⟨new', keys', apart', kept'⟩ := k
  refine ⟨new ++ new', by rw [keys', keys, List.append_assoc], fun key hk => ?_, fun key out => ?_⟩
  · rcases List.mem_append.mp hk with hk | hk
    · exact apart key hk
    · by_contra owned
      have still := contains ⟨new, keys, apart, kept⟩ (Bool.eq_true_of_not_eq_false owned)
      exact absurd (still.symm.trans (apart' key hk)) Bool.noConfusion
  · rw [List.mem_append, not_or] at out
    exact (kept' key out.2).trans (kept key out.1)

end Extends

/-! ### One table after another -/

/-- A key that is not among the first entries is written among the others. -/
theorem putEntry_append {es fs : List (String × Property)} (h : es.lookup key = none)
    (p : Property) : putEntry key p (es ++ fs) = es ++ putEntry key p fs := by
  induction es with
  | nil => rfl
  | cons e es ih =>
    obtain ⟨k, q⟩ := e
    rw [lookup_cons_eq_ite] at h
    split at h
    · cases h
    · rename_i other
      rw [List.cons_append, putEntry, if_neg (Ne.symm other), ih h, List.cons_append]

/-- What the second table has comes after what the first has. -/
instance : Append PropertyTable := ⟨fun t u => ⟨t.properties ++ u.properties, t.keys ++ u.keys⟩⟩

theorem append_empty (t : PropertyTable) : t ++ empty = t :=
  congrArg₂ mk (List.append_nil t.properties) (List.append_nil t.keys)

theorem keys_append (t u : PropertyTable) : (t ++ u).keys = t.keys ++ u.keys := rfl

theorem get?_append (t u : PropertyTable) (key : String) :
    (t ++ u).get? key = (t.get? key).or (u.get? key) := List.lookup_append

/-- An agreeing table without the keys of the first extends it. -/
theorem Agrees.extends_append (h : u.Agrees) (apart : ∀ key ∈ u.keys, t.contains key = false) :
    t.Extends (t ++ u) :=
  ⟨u.keys, rfl, apart, fun key out => by rw [get?_append, h.notMem_iff.mp out, Option.or_none]⟩

section
variable (new : t.contains key = false)
include new

theorem get?_append_of_new (u : PropertyTable) : (t ++ u).get? key = u.get? key := by
  rw [get?_append, contains_eq_false_iff.mp new, Option.none_or]

theorem put_append (u : PropertyTable) (p : Property) : (t ++ u).put key p = t ++ u.put key p := by
  have same : (t ++ u).contains key = u.contains key := by
    rw [contains, get?_append_of_new new, contains]
  refine congrArg₂ mk (putEntry_append (contains_eq_false_iff.mp new) p) ?_
  rw [same, keys_append]
  show _ = t.keys ++ (u.put key p).keys
  rw [keys_put]
  split
  · rfl
  · rw [List.append_assoc]

end

/-- A member whose key the first table does not have is installed in the second. -/
theorem install_append {e : BindingEntry} (new : t.contains e.key = false) (u : PropertyTable) :
    (t ++ u).install e = t ++ u.install e := by
  rw [install_eq_put, get?_append_of_new new, put_append new, install_eq_put]

theorem foldl_install_append {es : List BindingEntry} (new : ∀ e ∈ es, t.contains e.key = false)
    (u : PropertyTable) : es.foldl install (t ++ u) = t ++ es.foldl install u := by
  induction es generalizing u with
  | nil => rfl
  | cons e es ih =>
    rw [List.foldl_cons, install_append (new e List.mem_cons_self), List.foldl_cons]
    exact ih (fun x hx => new x (List.mem_cons_of_mem _ hx)) _

/-! ### Some of the keys of a table -/

/-- The keys that are kept, with their properties. -/
def restrict (t : PropertyTable) (keep : String → Bool) : PropertyTable :=
  ⟨t.properties.filter fun e => keep e.1, t.keys.filter keep⟩

section
variable (t : PropertyTable) (keep : String → Bool)

theorem keys_restrict : (t.restrict keep).keys = t.keys.filter keep := rfl

theorem get?_restrict (key : String) :
    (t.restrict keep).get? key = if keep key then t.get? key else none := by
  obtain ⟨es, _⟩ := t
  show (es.filter fun e => keep e.1).lookup key = if keep key then es.lookup key else none
  induction es with
  | nil => simp
  | cons e es ih =>
    obtain ⟨k, q⟩ := e
    rw [List.filter_cons, lookup_cons_eq_ite]
    by_cases same : key = k
    · subst same
      split
      · rw [List.lookup_cons_self, if_pos rfl]
      · rename_i out
        rw [ih, if_neg out]
    · rw [if_neg same, ← ih]
      split
      · rw [lookup_cons_eq_ite, if_neg same]
      · rfl

variable {t keep} in
theorem Agrees.restrict (h : t.Agrees) : (t.restrict keep).Agrees := by
  refine ⟨h.nodup.filter keep, fun key => ?_⟩
  rw [keys_restrict, List.mem_filter, h.mem_iff, contains, contains, get?_restrict]
  by_cases kept : keep key <;> simp [kept]

theorem filter_putEntry (key : String) (p : Property) (es : List (String × Property)) :
    (putEntry key p es).filter (fun e => keep e.1) =
      if keep key then putEntry key p (es.filter fun e => keep e.1)
      else es.filter fun e => keep e.1 := by
  induction es with
  | nil => by_cases kept : keep key <;> simp [putEntry, kept]
  | cons e es ih =>
    obtain ⟨k, q⟩ := e
    by_cases same : k = key
    · subst same
      by_cases kept : keep k <;> simp [putEntry, kept]
    · rw [putEntry, if_neg same, List.filter_cons, List.filter_cons, ih]
      by_cases here : keep k <;> by_cases kept : keep key <;> simp [putEntry, same, here, kept]

/-- A key that is not kept can be written unseen. -/
theorem restrict_put (key : String) (p : Property) :
    (t.put key p).restrict keep =
      if keep key then (t.restrict keep).put key p else t.restrict keep := by
  have written := filter_putEntry keep key p t.properties
  cases kept : keep key with
  | true =>
    rw [kept, if_pos rfl] at written
    have same : (t.restrict keep).contains key = t.contains key := by
      rw [contains, get?_restrict, kept]
      rfl
    refine congrArg₂ mk written ?_
    rw [keys_put, same, keys_restrict]
    split
    · rfl
    · rw [List.filter_append, List.filter_singleton, kept]
      rfl
  | false =>
    rw [kept, if_neg Bool.false_ne_true] at written
    refine congrArg₂ mk written ?_
    rw [keys_put]
    split
    · rfl
    · rw [List.filter_append, List.filter_singleton, kept]
      exact List.append_nil _

/-- A member is installed if its key is kept, since it reads no other. -/
theorem restrict_install (e : BindingEntry) :
    (t.install e).restrict keep =
      if keep e.key then (t.restrict keep).install e else t.restrict keep := by
  rw [install_eq_put, restrict_put]
  split
  · rename_i kept
    rw [install_eq_put, get?_restrict, if_pos kept]
  · rfl

theorem restrict_foldl_install (es : List BindingEntry) :
    (es.foldl install t).restrict keep =
      (es.filter fun e => keep e.key).foldl install (t.restrict keep) := by
  induction es generalizing t with
  | nil => rfl
  | cons e es ih =>
    rw [List.foldl_cons, ih, restrict_install, List.filter_cons]
    split <;> rfl

end

/-- A key is there once members are installed if it was there or is the key of one of them. -/
theorem contains_foldl_install (es : List BindingEntry) (t : PropertyTable) (key : String) :
    (es.foldl PropertyTable.install t).contains key =
      (t.contains key || es.any (·.key = key)) := by
  induction es generalizing t with
  | nil => simp
  | cons e es ih =>
    rw [List.foldl_cons, ih, contains, get?_install, List.any_cons]
    by_cases same : key = e.key
    · simp [same]
    · simp [same, Ne.symm same, contains]

/-! ### Installing keeps the agreement -/

theorem Agrees.install (h : t.Agrees) (e : BindingEntry) : (t.install e).Agrees := by
  rw [install_eq_put]
  exact h.put _ _

theorem Agrees.foldl_install (h : t.Agrees) (es : List BindingEntry) :
    (es.foldl PropertyTable.install t).Agrees :=
  List.foldlRecOn es _ h fun _ hu e _ => hu.install e

end PropertyTable

namespace Bindings

variable (b : Bindings) {t : PropertyTable}

theorem agrees_applied (mode : ApplyMode) (h : t.Agrees) : (b.applied mode t).Agrees :=
  h.foldl_install _

/-- Where the list has the keys of the map, the members that are appended are those whose keys the
object does not own. -/
theorem pending_append (h : t.Agrees) :
    b.pending .append t = b.flattened.filter fun e => !t.contains e.key :=
  List.filter_congr fun e _ => by rw [h.contains_eq, decide_not]

/-- Appending adds what installing the members on no properties gives, less the keys that the object
owns. -/
theorem applied_append (h : t.Agrees) :
    b.applied .append t =
      t ++ (b.applied .replace .empty).restrict fun key => !t.contains key := by
  have new : ∀ e ∈ b.pending .append t, t.contains e.key = false := fun e he => by
    rw [pending_append b h] at he
    simpa using (List.mem_filter.mp he).2
  calc b.applied .append t
      = (b.pending .append t).foldl PropertyTable.install (t ++ .empty) := by
        rw [PropertyTable.append_empty, applied]
    _ = t ++ (b.pending .append t).foldl PropertyTable.install .empty :=
        PropertyTable.foldl_install_append new _
    _ = t ++ (b.applied .replace .empty).restrict fun key => !t.contains key := by
        rw [applied, PropertyTable.restrict_foldl_install, pending_append b h]
        rfl

/-- Appending extends what the object owns. -/
theorem extends_applied (h : t.Agrees) : t.Extends (b.applied .append t) := by
  rw [applied_append b h]
  exact (agrees_applied b .replace .empty).restrict.extends_append fun key hk => by
    simpa using (List.mem_filter.mp hk).2

/-- Once the members are installed, every key of the chain is owned, in either mode. -/
theorem contains_applied (mode : ApplyMode) (h : t.Agrees) {e : BindingEntry}
    (he : e ∈ b.flattened) : (b.applied mode t).contains e.key = true := by
  rw [applied, PropertyTable.contains_foldl_install]
  cases mode with
  | replace => exact Bool.or_eq_true_iff.mpr (.inr (List.any_eq_true.mpr ⟨e, he, by simp⟩))
  | append =>
    cases owned : t.contains e.key with
    | true => rfl
    | false =>
      have pending : e ∈ b.pending .append t := by
        rw [pending_append b h]
        exact List.mem_filter.mpr ⟨he, by simp [owned]⟩
      exact List.any_eq_true.mpr ⟨e, pending, by simp⟩

variable (d : DomainRef) (o : ObjectRef) (mode : ApplyMode) (s : Store)

/-- Applying a table changes the properties of one object. -/
theorem properties_applyTo (x : ObjectRef) :
    ((b.applyTo d o mode).run s).2.properties x =
      if o = x ∧ x.index < s.objects.size then b.applied mode (s.properties x)
      else s.properties x := by
  rw [applyTo_run]
  show ((s.modifyProperties o (b.applied mode)).object x).properties = _
  rw [Store.modifyProperties, Store.object_modifyObject]
  split <;> rfl

/-- Appending to one object extends the properties of all. -/
theorem extends_applyTo {x : ObjectRef} (h : (s.properties x).Agrees) :
    (s.properties x).Extends (((b.applyTo d o .append).run s).2.properties x) := by
  rw [properties_applyTo]
  split
  · exact b.extends_applied h
  · exact .refl _

/-- An object without properties is given what the members make of none. -/
theorem properties_applyTo_bare {o : ObjectRef} {s : Store} (inside : o.index < s.objects.size)
    (bare : s.properties o = .empty) :
    ((b.applyTo d o .replace).run s).2.properties o = b.applied .replace .empty := by
  rw [properties_applyTo, if_pos ⟨rfl, inside⟩, bare]

/-- **What appending adds.** A chain of tables is appended to an object whose keys are listed. The
keys that the object owned come first, in their order and with their properties; after them come the
others that the chain gives to an object without properties, in the same order and with the same
properties. The domain counts the members of these keys. -/
theorem applyTo_append (b : Bindings) (d d' : DomainRef) {o o' : ObjectRef} {s s' : Store}
    (listed : (s.properties o).Agrees) (inside : o.index < s.objects.size)
    (counted : d.index < s.domains.size) (inside' : o'.index < s'.objects.size)
    (bare : s'.properties o' = .empty) :
    let before := s.properties o
    let after := ((b.applyTo d o .append).run s).2
    let fresh := ((b.applyTo d' o' .replace).run s').2.properties o'
    (after.properties o).keys = before.keys ++ fresh.keys.filter (fun key => !before.contains key) ∧
      (∀ key, (after.properties o).get? key =
        if before.contains key then before.get? key else fresh.get? key) ∧
      (after.domain d).stats = { (s.domain d).stats with
        tables := (s.domain d).stats.tables + 1
        members := (s.domain d).stats.members +
          b.flattened.countP fun e => !before.contains e.key } := by
  intro before after fresh
  have properties : after.properties o =
      before ++ fresh.restrict fun key => !before.contains key := by
    rw [show fresh = _ from b.properties_applyTo_bare d' inside' bare, ← b.applied_append listed]
    exact (b.properties_applyTo d o .append s o).trans (if_pos ⟨rfl, inside⟩)
  refine ⟨?_, fun key => ?_, ?_⟩
  · rw [properties, PropertyTable.keys_append, PropertyTable.keys_restrict]
  · rw [properties, PropertyTable.get?_append, PropertyTable.get?_restrict]
    cases owned : before.contains key with
    | true =>
      obtain ⟨p, found⟩ := Option.isSome_iff_exists.mp owned
      rw [found]
      rfl
    | false =>
      rw [Option.isNone_iff_eq_none.mp (Option.isSome_eq_false_iff.mp owned)]
      rfl
  · rw [show after.domain d = _ from domain_applyTo b o .append counted,
      List.countP_eq_length_filter, pending_append b listed]
    rfl

end Bindings

namespace Sample

/-- An object that owns one key. -/
def owningX : Store := opened.modifyProperties ⟨0⟩ (·.defineValue "x" .null)

end Sample

/-- The object owns the key of an inherited slot: it is left out, and both halves of an accessor are
added, one inherited and one not. -/
theorem applyTo_append_halves :
    let b := Sample.chain [Sample.getterK 1, { Sample.slotK with name := .plain "x" }]
      [Sample.setterK 2]
    let after := ((b.applyTo ⟨0⟩ ⟨0⟩ .append).run Sample.owningX).2
    (after.properties ⟨0⟩).keys = ["x", "k"] ∧
      (after.properties ⟨0⟩).get? "x" = some (.data .null true) ∧
      (after.properties ⟨0⟩).get? "k" = some (.accessor (some ⟨0⟩) (some ⟨1⟩)) ∧
      (after.domain ⟨0⟩).stats = ⟨1, 2, 0⟩ := by
  intro b after
  have inside : (0 : Nat) < Sample.opened.objects.size := by decide +kernel
  have bare : Sample.opened.properties ⟨0⟩ = .empty := by decide +kernel
  have owning : Sample.owningX.properties ⟨0⟩ = PropertyTable.empty.defineValue "x" .null := by
    decide +kernel
  obtain ⟨keys, property, stats⟩ := b.applyTo_append ⟨0⟩ ⟨0⟩ (o := ⟨0⟩) (s := Sample.owningX)
    (owning ▸ PropertyTable.Agrees.empty.put "x" _) (by decide +kernel) (by decide +kernel)
    inside bare
  exact ⟨keys.trans (by decide +kernel), (property "x").trans (by decide +kernel),
    (property "k").trans (by decide +kernel), stats.trans (by decide +kernel)⟩

/-- What fills in new objects alone extends the properties of all. -/
theorem Confined.extends_of_beyond {d : DomainRef} {s t : Store} (h : Confined (.beyond s d) s t)
    {o : ObjectRef} (listed : (t.properties o).Agrees) :
    (s.properties o).Extends (t.properties o) := by
  by_cases inside : o.index < s.objects.size
  · rw [h.properties o inside inside.not_ge]
    exact .refl _
  · have bare : s.properties o = .empty := by
      rw [Store.properties, Store.object, Array.getElem?_eq_none (not_lt.mp inside)]
      rfl
    rw [bare]
    exact listed.empty_extends

end ClassLink
