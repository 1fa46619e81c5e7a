import ClassLink.Class.Use
import ClassLink.Proofs.Construction

/-!
# What the functions of a store may write

The functions of a store run builtin members and scripts, and none of these has anything left to do
once it has called another function. So a call writes once at most: it makes an object, writes or
hides a property, or replaces a template (`Effect`). It never gives an object another parent or
owner, and it never writes a class or a domain. This is so of the functions of a store and of `call`
only; code that an embedder supplies in other ways may do more, and what is said of any way to call
functions does not rest on it.
-/

namespace ClassLink

/-! ### The effect of a call -/

/-- What code that runs has done to the store in the end. -/
inductive Effect (s : Store) : Store → Prop
  /-- Nothing. -/
  | none : Effect s s
  /-- It has made an object. -/
  | newObject (parent : Option ObjectRef) : Effect s ((newObject parent).run s).2
  /-- It has stored a value under a key that means no accessor. -/
  | store (o : ObjectRef) (key : String) (v : Value)
      (plain : ∀ getter setter, s.lookup o key ≠ some (.accessor getter setter)) :
      Effect s (s.modifyProperties o (·.store key v))
  /-- It has shown or hidden a property. -/
  | setEnumerable (o : ObjectRef) (key : String) (on : Bool) :
      Effect s (s.modifyProperties o (·.setEnumerable key on))
  /-- It has replaced the template of a function, or tried to. -/
  | setTemplate (f : FunctionRef) (o : ObjectRef) : Effect s (exec (setTemplate f o) s).2

/-- A way to call functions that has one effect at most. -/
def Invoke.HasEffect (invoke : Invoke) : Prop :=
  ∀ f this args s, Effect s (exec (invoke f this args) s).2

/-- What is done with a result does not write. -/
theorem store_exec_bind_pure {α β : Type} (x : Run α) (f : α → β) (s : Store) :
    (exec (x >>= fun a => pure (f a)) s).2 = (exec x s).2 := by
  rw [exec_bind]
  rcases exec x s with ⟨e | a, t⟩ <;> rfl

section
variable {invoke : Invoke} (h : invoke.HasEffect)
include h

theorem effect_readProperty (o : ObjectRef) (key : String) (s : Store) :
    Effect s (exec (readProperty invoke o key) s).2 := by
  unfold readProperty
  rw [exec_get_bind]
  split
  · exact .none
  · exact h ..
  · exact .none
  · exact .none

theorem effect_writeProperty (o : ObjectRef) (key : String) (v : Value) (s : Store) :
    Effect s (exec (writeProperty invoke o key v) s).2 := by
  unfold writeProperty
  rw [exec_get_bind]
  split
  · exact (store_exec_bind_pure ..).symm ▸ h _ _ _ s
  · exact .none
  · rename_i calls ignores
    refine .store o key v fun getter setter found => ?_
    cases setter with
    | some f => exact calls getter f found
    | none => exact ignores getter found

omit h in
theorem effect_builtin (b : Builtin) (this : Value) (args : List Value) (s : Store) :
    Effect s (exec (b.run this args) s).2 := by
  induction b generalizing this args s with
  | onFirst member ih => exact ih ..
  | setPropertyIsEnumerable member =>
    cases this with
    | object o => exact .setEnumerable ..
    | _ => exact .none
  | setFunctionPrototype =>
    unfold Builtin.run
    split
    · exact (store_exec_bind_pure ..).symm ▸ Effect.setTemplate ..
    · exact .none
    · exact .none
  -- what reads the store gives a value that depends on the receiver
  | isPrototypeOf | hasOwnProperty | propertyIsEnumerable | describe | functionLength =>
    unfold Builtin.run
    rw [exec_get_bind]
    split <;> exact .none
  | classPrototype =>
    unfold Builtin.run
    rw [exec_get_bind]
    split
    · split
      · exact .none
      · split <;> exact .none
    · exact .none
  | functionPrototype =>
    unfold Builtin.run
    rw [exec_get_bind]
    split
    · split <;> exact .none
    · exact .none
  | _ => exact .none

theorem effect_script (x : Script) (this : Value) (args : List Value) (s : Store) :
    Effect s (exec (x.run invoke this args) s).2 := by
  unfold Script.run
  cases x with
  | load key =>
    cases this with
    | object o => exact effect_readProperty h o key s
    | _ => exact .none
  | store key =>
    cases this with
    | object o => exact (store_exec_bind_pure ..).symm ▸ effect_writeProperty h o key _ s
    | _ => exact .none
  | fresh parent => exact .newObject parent.object?
  | _ => exact .none

theorem effect_hostFunction (g : HostFunction) (this : Value) (args : List Value) (s : Store) :
    Effect s (exec (g.run invoke this args) s).2 := by
  cases g with
  | script x => exact effect_script h x this args s
  | builtin b => exact effect_builtin b this args s

end

/-- Calls that are nested to any depth have one effect. -/
theorem effect_callWithin (depth : Nat) : Invoke.HasEffect (callWithin depth) := by
  induction depth with
  | zero => exact fun _ _ _ _ => .none
  | succ depth ih =>
    intro f this args s
    unfold callWithin
    rw [exec_get_bind]
    split
    · exact effect_hostFunction ih ..
    · exact effect_hostFunction ih ..
    · exact .none

/-- **What a call does.** -/
theorem effect_call : Invoke.HasEffect call := fun f this args s => by
  unfold call
  rw [exec_get_bind]
  exact effect_callWithin _ f this args s

/-! ### What it leaves alone -/

/-- Properties and functions may be written. -/
def Footprint.running : Footprint := ⟨∅, Set.univ, Set.univ, ∅, ∅⟩

theorem Effect.confined {s t : Store} (h : Effect s t) : Confined .running s t := by
  cases h with
  | none => exact .refl _ s
  | newObject parent => exact confined_newObject _ s parent
  | store o key v _ => exact confined_modifyProperties (p := .running) trivial _
  | setEnumerable o key on => exact confined_modifyProperties (p := .running) trivial _
  | setTemplate f o => exact confined_setTemplate (p := .running) trivial o s

end ClassLink
