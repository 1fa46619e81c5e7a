import ClassLink.Proofs.Appending
import ClassLink.Proofs.Stubs

/-!
# What host objects supply

The host objects of a class are made afresh for every class, but what is found in them is read off
the description of the host class: the keys, in the order in which they arrive, and under each key
whether there is a function, and if so whether it is made with the object or is a value of the
description (`Supply`). An object that agrees with a description in this *carries* it
(`Store.Carries`). Native members are resolved in objects that carry descriptions, so the
descriptions say which of them are missing.
-/

namespace ClassLink

/-! ### Keys in the order of arrival -/

/-- A list once an element arrives: one that is there stays in its place. -/
def arrive {α : Type} [DecidableEq α] (xs : List α) (a : α) : List α :=
  if a ∈ xs then xs else xs ++ [a]

namespace PropertyTable.Agrees

variable {t : PropertyTable}

theorem keys_put (h : t.Agrees) (key : String) (p : Property) :
    (t.put key p).keys = arrive t.keys key := by
  rw [PropertyTable.keys_put, arrive]
  exact if_congr (h.mem_iff key).symm rfl rfl

/-- Installing members is the arrival of their keys. -/
theorem keys_foldl_install (h : t.Agrees) (es : List BindingEntry) :
    (es.foldl PropertyTable.install t).keys = (es.map (·.key)).foldl arrive t.keys := by
  induction es generalizing t with
  | nil => rfl
  | cons e es ih =>
    rw [List.foldl_cons, ih (h.install e), install_eq_put, h.keys_put, List.map_cons,
      List.foldl_cons]

end PropertyTable.Agrees

/-! ### Supplies -/

/-- Where a function that a holder has comes from. -/
inductive Supply where
  /-- It is made with the holder. -/
  | made
  /-- It is a value of the description. -/
  | given (f : FunctionRef)
deriving DecidableEq, Repr

/-- A function of a store comes from there; one that was made is no stub. -/
def Supply.Gives (u : Store) : Supply → FunctionRef → Prop
  | .made, g => g.index < u.functions.size ∧ (u.function g).isUnresolved = false
  | .given f, g => g = f

theorem rel_imp {α β : Type} {r q : α → β → Prop} (h : ∀ a b, r a b → q a b) {x : Option α}
    {y : Option β} (related : Option.Rel r x y) : Option.Rel q x y := by
  cases related with
  | some rab => exact .some (h _ _ rab)
  | none => exact .none

/-- What is found under the name of a member once it is defined, where `before` was found: `made` is
the function made for it, and a value is found as it is given. -/
def MemberBody.found {α : Type} (b : MemberBody) (made : α) (given : FunctionRef → α)
    (kind : MemberKind) (before : Option α) : Option α :=
  match b, kind with
  | .method .., .method => some made
  | .getter _, .getter => some made
  | .getter _, .setter => before
  | .setter _, .setter => some made
  | .setter _, .getter => before
  | .value v, .method => v.function?.map given
  | _, _ => none

namespace HolderDefinition

/-- The keys of a holder. -/
def keys (h : HolderDefinition) : List String := (h.members.map (·.name)).foldl arrive []

/-- Where the function comes from that a holder has for a kind of members under a key. -/
def supply? (h : HolderDefinition) (kind : MemberKind) (key : String) : Option Supply :=
  h.members.foldl (fun before m =>
    if m.name = key then m.body.found .made .given kind before else before) none

end HolderDefinition

/-- An object lists the keys of a description, and has functions where the description says. -/
structure Store.Carries (u : Store) (h : HolderDefinition) (o : ObjectRef) : Prop where
  inside : o.index < u.objects.size
  agrees : (u.properties o).Agrees
  keys : (u.properties o).keys = h.keys
  supplies : ∀ kind key,
    Option.Rel (Supply.Gives u) (h.supply? kind key) ((u.properties o).function? kind key)

namespace Store.Carries

variable {u v : Store} {h : HolderDefinition} {o : ObjectRef}

/-- An object that is left alone carries what it carried, while no function becomes a stub. -/
theorem of_eq (carries : u.Carries h o) (inside : o.index < v.objects.size)
    (same : v.properties o = u.properties o) (le : u.functions.size ≤ v.functions.size)
    (kept : ∀ g : FunctionRef, g.index < u.functions.size →
      (v.function g).isUnresolved = (u.function g).isUnresolved) : v.Carries h o := by
  refine ⟨inside, same ▸ carries.agrees, same ▸ carries.keys, fun kind key => ?_⟩
  rw [same]
  refine rel_imp (fun x g gives => ?_) (carries.supplies kind key)
  cases x with
  | made => exact ⟨gives.1.trans_le le, (kept g gives.1).trans gives.2⟩
  | given f => exact gives

theorem later {p : Footprint} (carries : u.Carries h o) (later : Confined p u v)
    (filled : o ∉ p.filled) (functions : ∀ g, g ∉ p.functions) : v.Carries h o :=
  carries.of_eq (carries.inside.trans_le later.objects_le)
    (later.properties o carries.inside filled) later.functions_le fun g lt => by
      rw [later.function g lt (functions g)]

/-- What makes new objects and functions only lets objects carry what they carried. -/
theorem of_none (carries : u.Carries h o) (later : Confined .none u v) : v.Carries h o :=
  carries.later later (Set.notMem_empty o) fun g => Set.notMem_empty g

end Store.Carries

/-! ### Holders -/

section
variable {u v : Store} {o : ObjectRef} {label : String} {ms : List HolderMember}

/-- What is found once a member is defined is what its body says. -/
theorem MemberBody.rel_found (b : MemberBody) {made : FunctionRef} {kind : MemberKind}
    (makes : (∀ x, b ≠ .value x) → Supply.Gives v .made made) {x : Option Supply}
    {y : Option FunctionRef} (before : Option.Rel (Supply.Gives v) x y) :
    Option.Rel (Supply.Gives v) (b.found .made .given kind x) (b.found made id kind y) := by
  cases b with
  | method arity f => cases kind <;> first | exact .some (makes (by simp)) | exact .none
  | getter f => cases kind <;> first | exact .some (makes (by simp)) | exact before | exact .none
  | setter f => cases kind <;> first | exact .some (makes (by simp)) | exact before | exact .none
  | value w =>
    cases kind with
    | method =>
      cases w with
      | function f => exact .some rfl
      | _ => exact .none
    | _ => exact .none

/-- Define a member, where `made` is the function made for it. -/
def HolderMember.define (m : HolderMember) (made : FunctionRef) (t : PropertyTable) :
    PropertyTable :=
  match m.body with
  | .method .. => t.defineMethod m.name made
  | .getter _ => t.defineGetter m.name made
  | .setter _ => t.defineSetter m.name made
  | .value w => t.defineValue m.name w

theorem HolderMember.keys_define (m : HolderMember) (made : FunctionRef) {t : PropertyTable}
    (h : t.Agrees) :
    (m.define made t).Agrees ∧ (m.define made t).keys = arrive t.keys m.name := by
  unfold define
  cases m.body <;> exact ⟨h.put .., h.keys_put ..⟩

theorem HolderMember.function?_define (m : HolderMember) (made : FunctionRef) (t : PropertyTable)
    (kind : MemberKind) (key : String) :
    (m.define made t).function? kind key =
      if m.name = key then m.body.found made id kind (t.function? kind key)
      else t.function? kind key := by
  obtain ⟨name, body⟩ := m
  by_cases same : name = key
  · subst same
    rw [if_pos rfl]
    cases body with
    | method | getter | setter =>
      cases kind <;> simp [define, PropertyTable.defineMethod, PropertyTable.defineGetter,
        PropertyTable.defineSetter, PropertyTable.function?_put, MemberBody.found] <;> rfl
    | value w =>
      show (t.put name (.data w true)).function? kind name = _
      rw [PropertyTable.function?_put, if_pos rfl]
      cases kind <;> cases w <;> rfl
  · have other : ¬key = name := fun e => same e.symm
    rw [if_neg same]
    cases body <;> simp [define, PropertyTable.defineMethod, PropertyTable.defineGetter,
      PropertyTable.defineSetter, PropertyTable.defineValue, PropertyTable.function?_put, other]

/-- A function of the host is made for a member unless it is a value; then the member is defined. -/
theorem HolderMember.install_run (m : HolderMember) (label : String) (o : ObjectRef) (u : Store) :
    ∃ v made, ((m.install label o).run u).2 = v.modifyProperties o (m.define made) ∧
      Confined .none u v ∧ v.objects = u.objects ∧
      ((∀ x, m.body ≠ .value x) → Supply.Gives v .made made) := by
  obtain ⟨name, body⟩ := m
  have makes : ∀ f : Function, f.isUnresolved = false →
      Confined .none u ((newFunction f).run u).2 ∧
        Supply.Gives ((newFunction f).run u).2 .made ⟨u.functions.size⟩ := fun f plain =>
    ⟨confined_newFunction .none u f, lt_of_lt_of_eq (Nat.lt_succ_self _) (newFunction_size ..).symm,
      by rw [newFunction_function, plain]⟩
  cases body with
  | method arity f =>
    obtain ⟨confined, gives⟩ := makes (.host (label ++ "." ++ name) arity f) rfl
    exact ⟨_, _, rfl, confined, rfl, fun _ => gives⟩
  | getter f =>
    obtain ⟨confined, gives⟩ := makes (.host ("get " ++ (label ++ "." ++ name)) 0 f) rfl
    exact ⟨_, _, rfl, confined, rfl, fun _ => gives⟩
  | setter f =>
    obtain ⟨confined, gives⟩ := makes (.host ("set " ++ (label ++ "." ++ name)) 1 f) rfl
    exact ⟨_, _, rfl, confined, rfl, fun _ => gives⟩
  | value w => exact ⟨u, default, rfl, .refl _ u, rfl, fun none => absurd rfl (none w)⟩

/-- An object that carries the first members carries one more once it is defined. -/
theorem Store.Carries.install (carries : u.Carries ⟨label, ms⟩ o) (m : HolderMember) :
    ((m.install label o).run u).2.Carries ⟨label, ms ++ [m]⟩ o := by
  obtain ⟨v, made, run, confined, objects, makes⟩ := m.install_run label o u
  have carried := carries.of_none confined
  have defined : (v.modifyProperties o (m.define made)).properties o =
      m.define made (v.properties o) := by
    simp only [Store.properties, Store.modifyProperties, Store.object_modifyObject]
    rw [if_pos ⟨trivial, carried.inside⟩]
  have listed := m.keys_define made carried.agrees
  rw [run]
  refine ⟨?_, defined ▸ listed.1, ?_, fun kind key => ?_⟩
  · exact carried.inside.trans_le (confined_modifyProperties (p := .all) trivial _).objects_le
  · rw [defined, listed.2, carried.keys, HolderDefinition.keys, HolderDefinition.keys,
      List.map_append, List.foldl_append]
    rfl
  · rw [defined, m.function?_define, HolderDefinition.supply?, List.foldl_append]
    show Option.Rel _ (if m.name = key then _ else _) _
    split
    · exact m.body.rel_found makes (carried.supplies kind key)
    · exact carried.supplies kind key

end

/-- An object that carries the first members carries all once the others are defined. -/
theorem Store.Carries.foldl_install {label : String} {o : ObjectRef} (ms : List HolderMember)
    {done : List HolderMember} {u : Store} (carries : u.Carries ⟨label, done⟩ o) :
    (ms.foldl (fun v m => ((m.install label o).run v).2) u).Carries ⟨label, done ++ ms⟩ o := by
  induction ms generalizing done u with
  | nil => rwa [List.append_nil]
  | cons m ms ih =>
    have next := ih (carries.install m)
    rwa [List.append_assoc] at next

/-- A new object carries its description. -/
theorem HolderDefinition.carries_instantiate (h : HolderDefinition) (u : Store) :
    (h.instantiate.run u).2.Carries h ⟨u.objects.size⟩ := by
  have run : (h.instantiate.run u).2 = ((h.members.forM fun m =>
      m.install h.label ⟨u.objects.size⟩).run ((newObject none).run u).2).2 := rfl
  have empty : ((newObject none).run u).2.Carries ⟨h.label, []⟩ ⟨u.objects.size⟩ := by
    refine ⟨by simp, ?_, ?_, fun kind key => ?_⟩ <;> rw [Store.properties, newObject_object]
    · exact .empty
    · rfl
    · cases kind <;> exact .none
  rw [run, run_forM]
  exact empty.foldl_install h.members

/-- So do the new objects of a list of holders. -/
theorem Holders.carries_instantiate (hs : Holders HolderDefinition) (u : Store) :
    List.Forall₂ (hs.instantiate.run u).2.Carries hs.extras (hs.instantiate.run u).1.extras := by
  cases hs with
  | inherited => exact .nil
  | own hs =>
    show List.Forall₂ ((hs.mapM HolderDefinition.instantiate).run u).2.Carries hs
      ((hs.mapM HolderDefinition.instantiate).run u).1
    induction hs generalizing u with
    | nil => exact .nil
    | cons h hs ih =>
      rw [run_mapM_cons]
      exact .cons ((h.carries_instantiate u).of_none (run_mapM_instantiate hs _).1) (ih _)

theorem Holders.isInherited_instantiate (hs : Holders HolderDefinition) (u : Store) :
    (hs.instantiate.run u).1.isInherited = hs.isInherited := by
  cases hs <;> rfl

/-- The template of a new constructor carries its description. -/
theorem ConstructorDefinition.carries_instantiate (c : ConstructorDefinition) (u : Store) :
    ∃ o, (c.instantiate.run u).2.template (c.instantiate.run u).1 = some o ∧
      (c.instantiate.run u).2.Carries c.prototype o := by
  have last := confined_newFunction .none (c.prototype.instantiate.run u).2
    (.hostConstructor c.name c.arity c.call c.construct ⟨u.objects.size⟩ !c.templateFixed)
  refine ⟨⟨u.objects.size⟩, ?_, (c.prototype.carries_instantiate u).of_none last⟩
  rw [Store.template]
  exact congrArg Function.template (newFunction_function ..)

/-! ### Host classes -/

/-- The descriptions of the holders in which the native members of a set are looked up. -/
def NativeDefinition.suppliers (d : NativeDefinition) : TraitSet → List HolderDefinition
  | .static => d.statics :: d.staticNatives.extras
  | .instance => (d.constructor.map (·.prototype)).toList ++ d.instanceNatives.extras

/-- The host objects of a class carry the descriptions of the host class. -/
structure NativeParts.Carry (parts : NativeParts) (u : Store) (d : NativeDefinition) : Prop where
  classObject : u.Carries d.statics parts.classObject
  constructor : parts.constructor.isSome = d.constructor.isSome
  template : Option.Rel u.Carries (d.constructor.map (·.prototype))
    (parts.constructor.bind u.template)
  staticNatives : List.Forall₂ u.Carries d.staticNatives.extras parts.staticNatives.extras
  instanceNatives : List.Forall₂ u.Carries d.instanceNatives.extras parts.instanceNatives.extras
  staticInherited : parts.staticNatives.isInherited = d.staticNatives.isInherited
  instanceInherited : parts.instanceNatives.isInherited = d.instanceNatives.isInherited

theorem NativeDefinition.carry_materialize (d : NativeDefinition) (u : Store) :
    (d.materialize.run u).1.Carry (d.materialize.run u).2 d := by
  generalize hs₁ : (d.statics.instantiate.run u).2 = s₁
  generalize hs₂ : ((instantiateConstructor d.constructor).run s₁).2 = s₂
  generalize hs₃ : (d.staticNatives.instantiate.run s₂).2 = s₃
  generalize hs₄ : (d.instanceNatives.instantiate.run s₃).2 = s₄
  have c₂ := hs₂ ▸ confined_instantiateConstructor d.constructor s₁
  have c₃ := hs₃ ▸ d.staticNatives.confined_instantiate s₂
  have c₄ := hs₄ ▸ d.instanceNatives.confined_instantiate s₃
  have statics := hs₁ ▸ d.statics.carries_instantiate u
  have staticNatives := hs₃ ▸ d.staticNatives.carries_instantiate s₂
  have instanceNatives := hs₄ ▸ d.instanceNatives.carries_instantiate s₃
  rw [d.materialize_run hs₁ hs₂ hs₃ hs₄]
  refine ⟨statics.of_none (c₂.trans (c₃.trans c₄)), ?_, ?_,
    staticNatives.imp fun h o carries => carries.of_none c₄, instanceNatives,
    d.staticNatives.isInherited_instantiate _, d.instanceNatives.isInherited_instantiate _⟩
  · cases d.constructor <;> rfl
  · cases own : d.constructor with
    | none => exact .none
    | some c =>
      have run : (instantiateConstructor (some c)).run s₁ =
          (some (c.instantiate.run s₁).1, (c.instantiate.run s₁).2) := rfl
      rw [own, run] at hs₂
      obtain rfl := hs₂
      obtain ⟨o, template, carries⟩ := c.carries_instantiate s₁
      have kept := (c₃.trans c₄).function _ (c.instantiate_new s₁).lt (Set.notMem_empty _)
      show Option.Rel _ (some c.prototype) (s₄.template (c.instantiate.run s₁).1)
      rw [Store.template, kept, ← Store.template, template]
      exact .some (carries.of_none (c₃.trans c₄))

/-- The host class that a descriptor names, if it is registered. -/
def Store.host? (s : Store) (descriptor : ClassDescriptor) : Option NativeDefinition :=
  descriptor.nativeId.bind s.natives.lookup

/-- The descriptions of the holders of a class, which has none unless it is a host class. -/
def suppliersOf (host : Option NativeDefinition) (set : TraitSet) : List HolderDefinition :=
  host.elim [] (·.suppliers set)

/-- The keys that the class object brings along. -/
def hostKeys (host : Option NativeDefinition) : List String := host.elim [] (·.statics.keys)

/-- The description of the template that the host constructor brings along. -/
def hostPrototype? (host : Option NativeDefinition) : Option HolderDefinition :=
  host.bind fun d => d.constructor.map (·.prototype)

/-- The objects that a class was allocated with carry the descriptions of its host class, and it is
not verified yet. -/
structure Class.Hosted (k : Class) (u : Store) (host : Option NativeDefinition) : Prop where
  native : k.isNative = host.isSome
  objectKeys : (u.properties k.object).keys = hostKeys host
  constructor : k.constructor.isSome = (hostPrototype? host).isSome
  template : Option.Rel u.Carries (hostPrototype? host) (k.hostTemplate? u)
  staticHolders : List.Forall₂ u.Carries (suppliersOf host .static) (staticHoldersOf k)
  instanceHolders : List.Forall₂ u.Carries (suppliersOf host .instance) (instanceHoldersOf u k)
  staticInherited : k.staticNatives.isInherited = host.any (·.staticNatives.isInherited)
  instanceInherited : k.instanceNatives.isInherited = host.any (·.instanceNatives.isInherited)
  unverified : k.verification = none

section
variable {d : DomainRef} {descriptor : ClassDescriptor} {base : Option ClassRef} {scope : Scope}
  {s t u : Store} {c : ClassRef} {k : Class} {host : Option NativeDefinition}

/-- What writes neither properties nor functions leaves the objects of a class as they were. -/
theorem Class.Hosted.later {p : Footprint} (h : k.Hosted t host) (later : Confined p t u)
    (object : k.object.index < t.objects.size)
    (constructor : ∀ f, k.constructor = some f → f.index < t.functions.size)
    (filled : ∀ o, o ∉ p.filled) (functions : ∀ f, f ∉ p.functions) : k.Hosted u host := by
  have carries : ∀ x o, t.Carries x o → u.Carries x o := fun x o held =>
    held.later later (filled o) functions
  have templates : ∀ f, k.constructor = some f → u.template f = t.template f := fun f hf => by
    rw [Store.template, later.function f (constructor f hf) (functions f)]
    rfl
  have template : k.hostTemplate? u = k.hostTemplate? t := by
    unfold Class.hostTemplate?
    cases own : k.constructor with
    | none => rfl
    | some f => exact templates f own
  refine ⟨h.native, ?_, h.constructor, template ▸ rel_imp carries h.template,
    h.staticHolders.imp carries, ?_, h.staticInherited, h.instanceInherited, h.unverified⟩
  · rw [later.properties _ object (filled _)]
    exact h.objectKeys
  · rw [instanceHoldersOf_congr templates]
    exact h.instanceHolders.imp carries

/-- A class of bytecode brings nothing along. -/
theorem hosted_of_object (native : k.nativeId = none) (constructor : k.constructor = none)
    (statics : k.staticNatives = .own []) (instances : k.instanceNatives = .own [])
    (unverified : k.verification = none) (empty : u.properties k.object = .empty) :
    k.Hosted u none := by
  have isNative : k.isNative = false := by rw [Class.isNative, native]; rfl
  refine ⟨isNative, by rw [empty]; rfl, by rw [constructor]; rfl, ?_, ?_, ?_, by rw [statics]; rfl,
    by rw [instances]; rfl, unverified⟩
  · rw [Class.hostTemplate?, constructor]
    exact .none
  · rw [staticHoldersOf, isNative]
    exact .nil
  · rw [instanceHoldersOf, isNative]
    exact .nil

/-- A host class brings along what its host objects carry. -/
theorem hosted_of_parts {parts : NativeParts} {definition : NativeDefinition}
    (native : k.isNative = true) (carry : parts.Carry u definition)
    (object : k.object = parts.classObject) (constructor : k.constructor = parts.constructor)
    (statics : k.staticNatives = parts.staticNatives)
    (instances : k.instanceNatives = parts.instanceNatives) (unverified : k.verification = none) :
    k.Hosted u (some definition) := by
  have template := carry.template
  have hostTemplate : k.hostTemplate? u = parts.constructor.bind u.template := by
    rw [Class.hostTemplate?, constructor]
  refine ⟨native, by rw [object]; exact carry.classObject.keys, ?_, hostTemplate ▸ template, ?_, ?_,
    by rw [statics]; exact carry.staticInherited, by rw [instances]; exact carry.instanceInherited,
    unverified⟩
  · rw [constructor, carry.constructor]
    cases h : definition.constructor <;> simp [hostPrototype?, h]
  · rw [staticHoldersOf, if_pos native, object, statics]
    exact .cons carry.classObject carry.staticNatives
  · rw [instanceHoldersOf, if_pos native, instances, constructor]
    refine List.rel_append ?_ carry.instanceNatives
    generalize definition.constructor.map (·.prototype) = x at template ⊢
    generalize parts.constructor.bind u.template = y at template ⊢
    cases template with
    | none => exact .nil
    | some carries => exact .cons carries .nil

/-- A class that is stored brings along what it brought before. -/
theorem Class.Hosted.allocate (h : k.Hosted t host) (object : k.object.index < t.objects.size)
    (constructor : ∀ f, k.constructor = some f → f.index < t.functions.size) :
    k.Hosted ((allocate k).run t).2 host :=
  h.later (confined_allocate (p := ⟨Set.univ, ∅, ∅, ∅, ∅⟩) trivial t) object constructor
    (fun o => Set.notMem_empty o) fun f => Set.notMem_empty f

/-- A class is allocated over objects that carry the descriptions of its host class. -/
theorem hosted_of_allocateFor (h : exec (allocateFor descriptor) s = (.ok c, t)) :
    (t.classAt c).Hosted t (s.host? descriptor) := by
  unfold allocateFor at h
  unfold Store.host?
  cases native : descriptor.nativeId with
  | none =>
    simp only [native] at h
    have empty : ((newObject none).run s).2.properties ⟨s.objects.size⟩ = .empty := by
      rw [Store.properties, newObject_object]
      rfl
    obtain ⟨k, stored, object, nativeId, constructor, statics, instances, unverified⟩ :
        ∃ k, (allocateBytecode descriptor).run s = (allocate k).run ((newObject none).run s).2 ∧
          k.object = ⟨s.objects.size⟩ ∧ k.nativeId = none ∧ k.constructor = none ∧
          k.staticNatives = .own [] ∧ k.instanceNatives = .own [] ∧ k.verification = none :=
      ⟨_, rfl, rfl, rfl, rfl, rfl, rfl, rfl⟩
    rw [exec_lift, stored] at h
    obtain ⟨same, rfl⟩ := Prod.mk.inj h
    obtain rfl := Except.ok.inj same
    rw [classAt_allocate]
    refine (hosted_of_object nativeId constructor statics instances unverified
      (object ▸ empty)).allocate ?_ fun f hf => by rw [constructor] at hf; cases hf
    rw [object, newObject_size]
    exact Nat.lt_succ_self _
  | some id =>
    simp only [native, exec_get_bind] at h
    cases found : s.natives.lookup id with
    | none => rw [found] at h; cases h
    | some definition =>
      simp only [found, exec_lift_bind] at h
      have carry := definition.carry_materialize s
      have made := definition.materialize_made s
      generalize definition.materialize.run s = r at h carry made
      obtain ⟨parts, v⟩ := r
      simp only at h carry made
      obtain ⟨k, stored, nativeId, object, constructor, statics, instances, unverified⟩ :
          ∃ k, allocateNative descriptor id parts = allocate k ∧ k.nativeId = some id ∧
            k.object = parts.classObject ∧ k.constructor = parts.constructor ∧
            k.staticNatives = parts.staticNatives ∧ k.instanceNatives = parts.instanceNatives ∧
            k.verification = none :=
        ⟨_, rfl, rfl, rfl, rfl, rfl, rfl, rfl⟩
      rw [stored, exec_lift] at h
      obtain ⟨same, rfl⟩ := Prod.mk.inj h
      obtain rfl := Except.ok.inj same
      have isNative : k.isNative = true := by rw [Class.isNative, nativeId]; rfl
      rw [classAt_allocate, Option.bind_some, found]
      exact (hosted_of_parts isNative carry object constructor statics instances
        unverified).allocate (object ▸ made.classObject_lt) fun f hf =>
          (made.constructor f (constructor ▸ hf)).2.1

/-- The scope of a class and its holders are not among what it brings along. -/
theorem Class.Hosted.withHolders (h : k.Hosted u host) (inner : Scope) (v : Store) :
    ((k.inside inner).withHolders v).Hosted u host :=
  ⟨h.native, h.objectKeys, h.constructor, h.template, h.staticHolders, h.instanceHolders,
    h.staticInherited, h.instanceInherited, h.unverified⟩

/-- Preparing a class leaves its host objects as they were, and makes them its holders. -/
theorem Begun.hosted {offered : FunctionRef} (h : Begun d descriptor base scope s u c offered) :
    (u.classAt c).Hosted u (s.host? descriptor) := by
  obtain ⟨t, allocated, run⟩ := h
  have made := allocated_of_allocateFor allocated
  have written := (holders_of_prepareClass made run).2
  have class_ := classAt_prepareClass d descriptor base scope made.lt
  rw [run] at class_
  have hosted := (hosted_of_allocateFor allocated).later written made.parts.object.2
    (fun f hf => (made.parts.constructor f hf).2.1) (fun o => Set.notMem_empty o)
    fun f => Set.notMem_empty f
  rw [class_]
  exact hosted.withHolders _ _

/-! ### Resolving members -/

/-- Where the implementation of a member comes from among the descriptions of holders. -/
def Trait.supply? (m : Trait) (hs : List HolderDefinition) : Option Supply :=
  hs.findSome? fun h => h.supply? m.kind (nativeName m.name.name)

/-- The member is native and no description has an implementation. -/
def Trait.lacks (m : Trait) (hs : List HolderDefinition) : Bool :=
  m.isNative && (m.supply? hs).isNone

/-- A member is resolved to where the descriptions say. -/
theorem Trait.rel_resolve? (m : Trait) {hs : List HolderDefinition} {os : List ObjectRef}
    (carries : List.Forall₂ u.Carries hs os) :
    Option.Rel (Supply.Gives u) (m.supply? hs) (m.resolve? u os) := by
  unfold supply? resolve?
  induction carries with
  | nil => exact .none
  | @cons h o hs os held _ ih =>
    rw [List.findSome?_cons, List.findSome?_cons]
    have found : Option.Rel (Supply.Gives u) (h.supply? m.kind (nativeName m.name.name))
        (m.implementation? (u.properties o)) := held.supplies ..
    generalize h.supply? m.kind (nativeName m.name.name) = x at found ⊢
    generalize m.implementation? (u.properties o) = y at found ⊢
    cases found with
    | some gives => exact .some gives
    | none => exact ih

/-- The members that no holder implements are those that the descriptions lack. -/
theorem Trait.isMissing_eq_lacks (m : Trait) {hs : List HolderDefinition} {os : List ObjectRef}
    (carries : List.Forall₂ u.Carries hs os) : m.isMissing u os = m.lacks hs := by
  have found := m.rel_resolve? carries
  rw [isMissing, ← isSome_resolve?, lacks]
  generalize m.supply? hs = x at found ⊢
  generalize m.resolve? u os = y at found ⊢
  cases found <;> rfl

end

end ClassLink
