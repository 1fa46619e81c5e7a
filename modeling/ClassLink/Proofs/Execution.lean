import ClassLink.Linker

/-!
# Opening operations

An operation that can fail gives a value or a fault, and leaves a store in either case. `exec`
is that pair. A sequence that succeeds is opened into its steps, each of which succeeded
(`exec_bind_ok`); reading and writing the store are steps that always do.
-/

namespace ClassLink

/-- What an operation that can fail gives, and the store it leaves. -/
def exec {α : Type} (x : Run α) (s : Store) : Except Fault α × Store := (ExceptT.run x).run s

section
variable {α β : Type}

theorem exec_bind (x : Run α) (f : α → Run β) (s : Store) :
    exec (x >>= f) s =
      match exec x s with
      | (.ok a, t) => exec (f a) t
      | (.error e, t) => (.error e, t) := by
  show (ExceptT.run (x >>= f)).run s = _
  simp only [ExceptT.run_bind, StateT.run_bind]
  rcases h : exec x s with ⟨a | a, t⟩ <;> simp only [exec] at h <;> simp only [h] <;> rfl

/-- A sequence succeeds if its steps do. -/
theorem exec_bind_ok {x : Run α} {f : α → Run β} {s u : Store} {b : β} :
    exec (x >>= f) s = (.ok b, u) ↔ ∃ a t, exec x s = (.ok a, t) ∧ exec (f a) t = (.ok b, u) := by
  rw [exec_bind]
  rcases exec x s with ⟨e | a, t⟩
  · simp
  · constructor
    · exact fun h => ⟨a, t, rfl, h⟩
    · rintro ⟨_, _, ⟨⟩, h⟩
      exact h

/-- A sequence fails if its first step does, or a later one after it. -/
theorem exec_bind_error {x : Run α} {f : α → Run β} {s u : Store} {e : Fault} :
    exec (x >>= f) s = (.error e, u) ↔
      exec x s = (.error e, u) ∨ ∃ a t, exec x s = (.ok a, t) ∧ exec (f a) t = (.error e, u) := by
  rw [exec_bind]
  rcases exec x s with ⟨e | a, t⟩
  · simp
  · constructor
    · exact fun h => .inr ⟨a, t, rfl, h⟩
    · rintro (⟨⟨⟩⟩ | ⟨_, _, ⟨⟩, h⟩)
      exact h

theorem exec_bind_congr {x : Run α} {f g : α → Run β} (h : ∀ a t, exec (f a) t = exec (g a) t)
    (s : Store) : exec (x >>= f) s = exec (x >>= g) s := by
  rw [exec_bind, exec_bind]
  rcases exec x s with ⟨e | a, t⟩
  · rfl
  · exact h a t

/-- What relates the stores before and after each step of a sequence, as far as it goes, relates
those before and after the sequence. -/
theorem exec_bind_rel {r : Store → Store → Prop} (trans : ∀ {s t u}, r s t → r t u → r s u)
    {x : Run α} {f : α → Run β} {s : Store} (first : r s (exec x s).2)
    (then_ : ∀ a t, exec x s = (.ok a, t) → r t (exec (f a) t).2) :
    r s (exec (x >>= f) s).2 := by
  rw [exec_bind]
  rcases h : exec x s with ⟨e | a, t⟩ <;> rw [h] at first
  · exact first
  · exact trans first (then_ a t h)

/-- A run is known by its value and the store it leaves. -/
theorem exec_eq_of_toOption {x : Run α} {s : Store} {a : α} (h : (exec x s).1.toOption = some a) :
    exec x s = (.ok a, (exec x s).2) := by
  rcases run : exec x s with ⟨e | b, t⟩ <;> rw [run] at h
  · cases h
  · obtain rfl : b = a := Option.some.inj h
    rfl

@[simp] theorem exec_pure (a : α) (s : Store) : exec (pure a) s = (.ok a, s) := rfl

@[simp] theorem exec_throw (e : Fault) (s : Store) :
    exec (throw e : Run α) s = (.error e, s) := rfl

@[simp] theorem exec_get_bind (f : Store → Run β) (s : Store) :
    exec (get >>= f) s = exec (f s) s := rfl

@[simp] theorem exec_modify (g : Store → Store) (s : Store) :
    exec (modify g) s = (.ok (), g s) := rfl

@[simp] theorem exec_modify_bind (g : Store → Store) (f : Unit → Run β) (s : Store) :
    exec (modify g >>= f) s = exec (f ()) (g s) := rfl

@[simp] theorem exec_lift (x : Action α) (s : Store) :
    exec (liftM x) s = (.ok (x.run s).1, (x.run s).2) := rfl

@[simp] theorem exec_lift_bind (x : Action α) (f : α → Run β) (s : Store) :
    exec (liftM x >>= f) s = exec (f (x.run s).1) (x.run s).2 := rfl

@[simp] theorem exec_liftExcept (r : Except Fault α) (s : Store) :
    exec (configure.liftExcept r) s = (r, s) := rfl

@[simp] theorem get_run (s : Store) : (get : Action Store).run s = (s, s) := rfl

@[simp] theorem pure_run (a : α) (s : Store) : (pure a : Action α).run s = (a, s) := rfl

@[simp] theorem modify_run (g : Store → Store) (s : Store) :
    (modify g : Action Unit).run s = ((), g s) := rfl

theorem run_bind (x : Action α) (f : α → Action β) (s : Store) :
    (x >>= f).run s = (f (x.run s).1).run (x.run s).2 := rfl

theorem run_forM (xs : List α) (g : α → Action Unit) (s : Store) :
    (xs.forM g).run s = ((), xs.foldl (fun u a => ((g a).run u).2) s) := by
  induction xs generalizing s with
  | nil => rfl
  | cons a xs ih => exact ih ((g a).run s).2

theorem run_mapM_cons (g : α → Action β) (a : α) (xs : List α) (s : Store) :
    ((a :: xs).mapM g).run s =
      (((g a).run s).1 :: ((xs.mapM g).run ((g a).run s).2).1,
        ((xs.mapM g).run ((g a).run s).2).2) := by
  rw [List.mapM_cons]
  rfl

/-- A loop of operations that cannot fail runs them one after the other. -/
theorem exec_forIn_lift (xs : List α) (g : α → Action Unit) (s : Store) :
    exec (forIn xs PUnit.unit fun a _ => do liftM (g a); pure (ForInStep.yield PUnit.unit)) s =
      (.ok PUnit.unit, xs.foldl (fun u a => ((g a).run u).2) s) := by
  induction xs generalizing s with
  | nil => rfl
  | cons a xs ih => simpa [List.forIn_cons, List.foldl_cons] using ih ((g a).run s).2

end

end ClassLink
