import ClassLink.Proofs.AccessorHalves

/-!
# Applying a chain of tables again

A chain of tables that is applied to an object a second time, in the same mode, changes nothing
(`Bindings.applyTo_applyTo`). When it is appended, the keys that were added are listed by then, and
their members are left out. When it replaces, the members are installed again, and on the way a key
may hold what it did not hold the first time: where a slot and a getter share it, the slot is first
written over the getter. But the members of a key leave the same in the end. A method or a slot
leaves nothing of what was there, and a half of an accessor is either kept by a member or replaced,
whatever it is; to do so twice is to do so once.
-/

namespace ClassLink

/-! ### The members of one key -/

namespace Binding

/-- A half is kept, or replaced whatever it is. -/
theorem halfAfter_keeps_or_replaces (b : Binding) (kind : MemberKind) :
    (∀ f, b.halfAfter kind f = f) ∨ ∃ g, ∀ f, b.halfAfter kind f = g := by
  unfold halfAfter
  by_cases same : b.kind = kind
  · exact .inr ⟨b.function?, fun f => if_pos same⟩
  · by_cases accessor : b.kind.isAccessor
    · exact .inl fun f => by rw [if_neg same, if_pos accessor]
    · exact .inr ⟨none, fun f => by rw [if_neg same, if_neg accessor]⟩

/-- What a member makes of properties differs in the halves at most. -/
theorem written_congr {b : Binding} {p q : Option Property}
    (h : ∀ kind, kind.isAccessor = true →
      (b.written p).half? kind = (b.written q).half? kind) : b.written p = b.written q := by
  cases b with
  | method | slot => rfl
  | getter f => exact congrArg (Property.accessor (some f)) (h .setter rfl)
  | setter f => exact congrArg (Property.accessor · (some f)) (h .getter rfl)

end Binding

/-- To keep or to replace a thing along a list twice is to do so once. -/
theorem foldl_foldl_of_keeps_or_replaces {α β : Type} {f : β → α → β}
    (h : ∀ a, (∀ b, f b a = b) ∨ ∃ c, ∀ b, f b a = c) (l : List α) (b : β) :
    l.foldl f (l.foldl f b) = l.foldl f b := by
  induction l using List.reverseRecOn with
  | nil => rfl
  | append_singleton l a ih =>
    simp only [List.foldl_append, List.foldl_cons, List.foldl_nil]
    rcases h a with keeps | ⟨c, replaces⟩
    · rw [keeps, keeps, ih]
    · rw [replaces, replaces]

section
variable (es : List BindingEntry) (p : Option Property)

/-- Members leave something. -/
theorem eq_nil_of_writtenAll_eq_none (h : writtenAll es p = none) : es = [] := by
  rcases List.eq_nil_or_concat es with rfl | ⟨first, last, rfl⟩
  · rfl
  · rw [List.concat_eq_append, writtenAll_concat] at h
    cases h

/-- The members of a key leave what they left before. -/
theorem writtenAll_writtenAll : writtenAll es (writtenAll es p) = writtenAll es p := by
  have halves : ∀ kind, kind.isAccessor = true →
      (writtenAll es (writtenAll es p)).bind (Property.half? kind) =
        (writtenAll es p).bind (Property.half? kind) := fun kind accessor => by
    rw [half?_writtenAll _ _ accessor, half?_writtenAll _ _ accessor]
    exact foldl_foldl_of_keeps_or_replaces
      (fun e => e.binding.halfAfter_keeps_or_replaces kind) es _
  rcases List.eq_nil_or_concat es with rfl | ⟨first, last, rfl⟩
  · rfl
  -- the last member decides, and it makes the same of both but for the halves
  · rw [List.concat_eq_append] at halves ⊢
    simp only [writtenAll_concat] at halves ⊢
    exact congrArg some (Binding.written_congr halves)

end

/-! ### All keys of a table -/

namespace PropertyTable

/-- What installing a member makes of the map. -/
def installEntry (r : List (String × Property)) (e : BindingEntry) : List (String × Property) :=
  putEntry e.key (e.binding.written (r.lookup e.key)) r

theorem properties_foldl_install (es : List BindingEntry) (t : PropertyTable) :
    (es.foldl install t).properties = es.foldl installEntry t.properties := by
  refine (List.foldl_hom properties ?_ ..).symm
  intro u e
  rw [install_eq_put]
  rfl

section
variable {k : String} {p p' : Property} {r : List (String × Property)} {es : List BindingEntry}

theorem installEntry_cons (e : BindingEntry) : installEntry ((k, p) :: r) e =
    if e.key = k then (k, e.binding.written (some p)) :: r else (k, p) :: installEntry r e := by
  rw [installEntry, putEntry, lookup_cons_eq_ite]
  by_cases same : e.key = k
  · rw [if_pos same.symm, if_pos same, if_pos same, same]
  · rw [if_neg (Ne.symm same), if_neg same, if_neg same, installEntry]

/-- The members of the first key change its property, the others what comes after it. -/
theorem foldl_installEntry_cons (here : writtenAll (es.filter (·.key = k)) (some p) = some p') :
    es.foldl installEntry ((k, p) :: r) =
      (k, p') :: (es.filter (·.key ≠ k)).foldl installEntry r := by
  induction es generalizing p r with
  | nil => rw [Option.some.inj here]; rfl
  | cons e es ih =>
    rw [List.foldl_cons, installEntry_cons]
    by_cases same : e.key = k
    · rw [List.filter_cons_of_pos (by simpa using same)] at here
      rw [if_pos same, List.filter_cons_of_neg (by simpa using same)]
      exact ih here
    · rw [List.filter_cons_of_neg (by simpa using same)] at here
      rw [if_neg same, List.filter_cons_of_pos (by simpa using same)]
      exact ih here

/-- Members that leave the property of each key as it is leave the map as it is. -/
theorem foldl_installEntry_of_settled
    (settled : ∀ key, writtenAll (es.filter (·.key = key)) (r.lookup key) = r.lookup key) :
    es.foldl installEntry r = r := by
  induction r generalizing es with
  | nil =>
    have none : es = [] := List.eq_nil_iff_forall_not_mem.mpr fun e he => by
      have empty := eq_nil_of_writtenAll_eq_none _ _ (settled e.key)
      exact List.filter_eq_nil_iff.mp empty e he (by simp)
    rw [none]
    rfl
  | cons head r ih =>
    obtain ⟨k, p⟩ := head
    have here := settled k
    rw [List.lookup_cons_self] at here
    rw [foldl_installEntry_cons here, ih fun key => ?_]
    rw [List.filter_filter]
    by_cases same : key = k
    · have none : (es.filter fun e => decide (e.key = key) && decide (e.key ≠ k)) = [] :=
        List.filter_eq_nil_iff.mpr fun e _ => by simp [same]
      rw [none]
      rfl
    · have rest := settled key
      rw [lookup_cons_eq_ite, if_neg same] at rest
      have others : (es.filter fun e => decide (e.key = key) && decide (e.key ≠ k)) =
          es.filter (·.key = key) := List.filter_congr fun e _ => by
        by_cases there : e.key = key <;> simp [there, same]
      rw [others]
      exact rest

end

/-- Installing members takes no key off the list. -/
theorem mem_keys_foldl_install (es : List BindingEntry) {t : PropertyTable} {key : String}
    (listed : key ∈ t.keys) : key ∈ (es.foldl install t).keys := by
  refine List.foldlRecOn (motive := (key ∈ ·.keys)) es install listed fun u hu e _ => ?_
  rw [install_eq_put, keys_put]
  split
  · exact hu
  · exact List.mem_append_left _ hu

/-- Members of keys that are there add no key to the list. -/
theorem keys_foldl_install_of_contains {es : List BindingEntry} {t : PropertyTable}
    (there : ∀ e ∈ es, t.contains e.key = true) : (es.foldl install t).keys = t.keys := by
  induction es generalizing t with
  | nil => rfl
  | cons e es ih =>
    rw [List.foldl_cons, install_eq_put]
    refine (ih fun x hx => ?_).trans ?_
    · rw [contains_put, there x (List.mem_cons_of_mem _ hx), Bool.or_true]
    · rw [keys_put, if_pos (there e List.mem_cons_self)]

/-- Members that leave the property of each key as it is leave the table as it is. -/
theorem foldl_install_of_settled {es : List BindingEntry} {t : PropertyTable}
    (settled : ∀ key, writtenAll (es.filter (·.key = key)) (t.get? key) = t.get? key) :
    es.foldl install t = t := by
  have there : ∀ e ∈ es, t.contains e.key = true := fun e he => by
    by_contra absent
    have none := contains_eq_false_iff.mp (Bool.eq_false_of_not_eq_true absent)
    have empty := eq_nil_of_writtenAll_eq_none _ _ ((settled e.key).trans none)
    exact List.filter_eq_nil_iff.mp empty e he (by simp)
  refine congrArg₂ mk (?_ : (es.foldl install t).properties = t.properties)
    (keys_foldl_install_of_contains there)
  rw [properties_foldl_install]
  exact foldl_installEntry_of_settled settled

end PropertyTable

namespace Bindings

/-- The members that are installed are those of the flattened chain whose keys meet a condition. -/
theorem filter_pending (b : Bindings) (mode : ApplyMode) (t : PropertyTable) (key : String) :
    (b.pending mode t).filter (·.key = key) =
      if mode = .append ∧ key ∈ t.keys then [] else b.flattened.filter (·.key = key) := by
  cases mode with
  | replace => rfl
  | append =>
    rw [pending, List.filter_filter]
    split
    · rename_i listed
      refine List.filter_eq_nil_iff.mpr fun e _ => ?_
      simpa using fun same : e.key = key => same ▸ listed.2
    · rename_i unlisted
      refine List.filter_congr fun e _ => ?_
      simpa using fun (same : e.key = key) listed => unlisted ⟨rfl, same ▸ listed⟩

/-- What is installed is not changed by installing it again, in either mode. -/
theorem applied_applied (b : Bindings) (mode : ApplyMode) (t : PropertyTable) :
    b.applied mode (b.applied mode t) = b.applied mode t := by
  refine PropertyTable.foldl_install_of_settled fun key => ?_
  rw [filter_pending]
  split
  · rfl
  · rename_i unlisted
    have before : ¬(mode = .append ∧ key ∈ t.keys) := fun ⟨append, listed⟩ =>
      unlisted ⟨append, PropertyTable.mem_keys_foldl_install _ listed⟩
    rw [applied, PropertyTable.get?_foldl_install, filter_pending, if_neg before]
    exact writtenAll_writtenAll _ _

/-- **Applying a chain of tables again.** In the same mode it changes the own properties of no
object, neither what they are nor their order. -/
theorem applyTo_applyTo (b : Bindings) (d d' : DomainRef) (o : ObjectRef) (mode : ApplyMode)
    (s : Store) (x : ObjectRef) :
    let once := ((b.applyTo d o mode).run s).2
    ((b.applyTo d' o mode).run once).2.properties x = once.properties x := by
  intro once
  rw [properties_applyTo]
  split
  · rename_i target
    obtain ⟨rfl, inside⟩ := target
    have applied : once.properties o = b.applied mode (s.properties o) := by
      refine (b.properties_applyTo d o mode s o).trans (if_pos ⟨rfl, ?_⟩)
      exact inside.trans_eq (Array.size_modify ..)
    rw [applied, applied_applied]
  · rfl

end Bindings

end ClassLink
