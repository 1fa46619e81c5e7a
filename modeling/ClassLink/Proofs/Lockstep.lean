import ClassLink.Proofs.Footprint

/-!
# Two runs in step

Two stores that are the same but for what verifying writes and what the options say are *alike*
(`Alike`); a `Veil` names the places in which they may differ. An operation that does not look
behind the veil gives the same value in both stores and leaves stores that are alike again
(`Blind`). Sequences and loops of blind operations are blind, and so are the operations of the
store, so what is left to look at are the places at which an operation reads the store.
-/

namespace ClassLink

/-- Where two stores may differ. -/
structure Veil where
  /-- Classes whose reports may differ. -/
  reports : Set ClassRef
  /-- How the options of a domain differ. -/
  options : DomainRef → Options → Options → Prop
  /-- Domains whose diagnostics may differ. -/
  diagnostics : Set DomainRef
  /-- The logs may differ. -/
  log : Prop

/-- Two stores differ behind a veil only. -/
structure Alike (v : Veil) (s t : Store) : Prop where
  objects : t.objects = s.objects
  functions : t.functions = s.functions
  natives : t.natives = s.natives
  classes_eq : t.classes.size = s.classes.size
  classAt : ∀ c, t.classAt c = { s.classAt c with verification := (t.classAt c).verification }
  report : ∀ c, c ∉ v.reports → (t.classAt c).verification = (s.classAt c).verification
  domains_eq : t.domains.size = s.domains.size
  domain : ∀ d, t.domain d = { s.domain d with
    options := (t.domain d).options
    diagnostics := (t.domain d).diagnostics }
  options : ∀ d, v.options d (s.domain d).options (t.domain d).options
  diagnostics : ∀ d, d ∉ v.diagnostics → (t.domain d).diagnostics = (s.domain d).diagnostics
  log : ¬v.log → t.log = s.log

namespace Alike

variable {v : Veil} {s t : Store}

/-! ### Reading -/

/-- What does not depend on the report of a class. -/
theorem classAt_congr (h : Alike v s t) {β : Type} (g : Class → β)
    (blind : ∀ k r, g { k with verification := r } = g k) (c : ClassRef) :
    g (t.classAt c) = g (s.classAt c) := by
  rw [h.classAt c]
  exact blind ..

/-- What depends neither on the options of a domain nor on its diagnostics. -/
theorem domain_congr (h : Alike v s t) {β : Type} (g : Domain → β)
    (blind : ∀ x o ds, g { x with options := o, diagnostics := ds } = g x) (d : DomainRef) :
    g (t.domain d) = g (s.domain d) := by
  rw [h.domain d]
  exact blind ..

theorem object (h : Alike v s t) : t.object = s.object := by
  funext o
  rw [Store.object, h.objects]
  rfl

theorem function (h : Alike v s t) : t.function = s.function := by
  funext f
  rw [Store.function, h.functions]
  rfl

theorem parent (h : Alike v s t) : t.parent = s.parent := by
  funext o
  rw [Store.parent, h.object]
  rfl

theorem properties (h : Alike v s t) : t.properties = s.properties := by
  funext o
  rw [Store.properties, h.object]
  rfl

theorem template (h : Alike v s t) : t.template = s.template := by
  funext f
  rw [Store.template, h.function]
  rfl

theorem base (h : Alike v s t) : t.base = s.base :=
  funext fun c => h.classAt_congr Class.base? (fun _ _ => rfl) c

theorem className (h : Alike v s t) : t.className = s.className :=
  funext fun c => h.classAt_congr Class.name (fun _ _ => rfl) c

/-! ### Writing -/

theorem newObject (h : Alike v s t) (parent : Option ObjectRef) :
    Alike v ((newObject parent).run s).2 ((newObject parent).run t).2 :=
  { h with objects := congrArg (·.push (.bare parent)) h.objects }

theorem newFunction (h : Alike v s t) (f : Function) :
    Alike v ((newFunction f).run s).2 ((newFunction f).run t).2 :=
  { h with functions := congrArg (·.push f) h.functions }

theorem newClass (h : Alike v s t) (k : Class) :
    Alike v ((newClass k).run s).2 ((newClass k).run t).2 := by
  refine { h with classes_eq := ?_, classAt := fun c => ?_, report := fun c hc => ?_ }
  · rw [newClass_run, newClass_run, Array.size_push, Array.size_push, h.classes_eq]
  all_goals
    simp only [newClass_run, Store.classAt_push, h.classes_eq]
    split
  · rfl
  · exact h.classAt c
  · rfl
  · exact h.report c hc

theorem modifyObject (h : Alike v s t) (o : ObjectRef) (f : HeapObject → HeapObject) :
    Alike v (s.modifyObject o f) (t.modifyObject o f) :=
  { h with objects := congrArg (·.modify o.index f) h.objects }

theorem modifyFunction (h : Alike v s t) (g : FunctionRef) (f : Function → Function) :
    Alike v (s.modifyFunction g f) (t.modifyFunction g f) :=
  { h with functions := congrArg (·.modify g.index f) h.functions }

/-- A change of a class that does not spread the report. -/
theorem modifyClass (h : Alike v s t) (c : ClassRef) {f : Class → Class}
    (blind : ∀ k r, f { k with verification := r } =
      { f k with verification := (f { k with verification := r }).verification }) :
    Alike v (s.modifyClass c f) (t.modifyClass c f) := by
  refine { h with
    classes_eq := by rw [Store.size_modifyClass, Store.size_modifyClass, h.classes_eq]
    classAt := fun x => ?_
    report := fun x hx => ?_ }
  · rw [Store.classAt_modifyClass, Store.classAt_modifyClass, h.classes_eq]
    split
    · rw [h.classAt x]
      exact blind ..
    · exact h.classAt x
  · have same : t.classAt x = s.classAt x := by rw [h.classAt x, h.report x hx]
    rw [Store.classAt_modifyClass, Store.classAt_modifyClass, h.classes_eq, same]

/-- A report behind the veil may be written in one store only. -/
theorem report_right (h : Alike v s t) {c : ClassRef} (hidden : c ∈ v.reports) (r : Option Report) :
    Alike v s (t.modifyClass c fun k => { k with verification := r }) := by
  refine { h with
    classes_eq := (t.size_modifyClass ..).trans h.classes_eq
    classAt := fun x => ?_
    report := fun x hx => ?_ }
  · rw [Store.classAt_modifyClass]
    split
    · rw [h.classAt x]
    · exact h.classAt x
  · have other : ¬(c = x ∧ x.index < t.classes.size) := fun same => hx (same.1 ▸ hidden)
    rw [Store.classAt_modifyClass, if_neg other]
    exact h.report x hx

/-- A change of a domain that passes the options on, and adds to the diagnostics at most. -/
theorem modifyDomain (h : Alike v s t) (d : DomainRef) {g : Domain → Domain}
    (blind : ∀ x o ds, g { x with options := o, diagnostics := ds } = { g x with
      options := o
      diagnostics := (g { x with options := o, diagnostics := ds }).diagnostics })
    (diagnostics : ∀ x y : Domain, x.diagnostics = y.diagnostics →
      (g x).diagnostics = (g y).diagnostics) :
    Alike v (s.modifyDomain d g) (t.modifyDomain d g) := by
  have options : ∀ x, (g x).options = x.options := fun x => by
    have passed := congrArg Domain.options (blind x x.options x.diagnostics)
    exact passed
  refine { h with
    domains_eq := by rw [Store.size_modifyDomain, Store.size_modifyDomain, h.domains_eq]
    domain := fun x => ?_
    options := fun x => ?_
    diagnostics := fun x hx => ?_ }
  all_goals rw [Store.domain_modifyDomain, Store.domain_modifyDomain, h.domains_eq]
  · split
    · rw [options]
      conv_lhs => rw [h.domain x, blind]
      rw [← h.domain x]
    · exact h.domain x
  · split
    · rw [options, options]
      exact h.options x
    · exact h.options x
  · split
    · exact diagnostics _ _ (h.diagnostics x hx)
    · exact h.diagnostics x hx

theorem record (h : Alike v s t) (r : LogRecord) : Alike v (s.record r) (t.record r) :=
  { h with log := fun kept => congrArg (·.push r) (h.log kept) }

end Alike

/-! ### Results -/

/-- Two results are the same, and leave stores that are alike. -/
structure InStep (v : Veil) {α : Type} (x y : α × Store) : Prop where
  value : y.1 = x.1
  alike : Alike v x.2 y.2

/-- In stores that are alike an operation gives the same and leaves stores that are alike. -/
def Blind (v : Veil) {α : Type} (x : Action α) : Prop :=
  ∀ ⦃s t : Store⦄, Alike v s t → InStep v (x.run s) (x.run t)

/-- The same for an operation that can fail. -/
def BlindRun (v : Veil) {α : Type} (x : Run α) : Prop :=
  ∀ ⦃s t : Store⦄, Alike v s t → InStep v (exec x s) (exec x t)

section
variable {v : Veil} {α β : Type} {s t : Store}

/-- What the one result is, the other is. -/
theorem InStep.exists_alike {x y : α × Store} (h : InStep v x y) {a : α} {u : Store}
    (same : x = (a, u)) : ∃ u', y = (a, u') ∧ Alike v u u' := by
  subst same
  exact ⟨y.2, Prod.ext h.value rfl, h.alike⟩

theorem InStep.run_bind {x y : Action α} {f g : α → Action β}
    (first : InStep v (x.run s) (y.run t))
    (next : ∀ a s' t', Alike v s' t' → InStep v ((f a).run s') ((g a).run t')) :
    InStep v ((x >>= f).run s) ((y >>= g).run t) := by
  rw [ClassLink.run_bind, ClassLink.run_bind, first.value]
  exact next _ _ _ first.alike

theorem InStep.exec_bind {x y : Run α} {f g : α → Run β}
    (first : InStep v (exec x s) (exec y t))
    (next : ∀ a s' t', Alike v s' t' → InStep v (exec (f a) s') (exec (g a) t')) :
    InStep v (exec (x >>= f) s) (exec (y >>= g) t) := by
  rw [ClassLink.exec_bind, ClassLink.exec_bind]
  rcases left : exec x s with ⟨e | a, u⟩ <;> obtain ⟨u', right, alike⟩ := first.exists_alike left
  · rw [right]
    exact ⟨rfl, alike⟩
  · rw [right]
    exact next a u u' alike

namespace Blind

theorem pure (a : α) : Blind v (Pure.pure a) := fun _ _ h => ⟨rfl, h⟩

theorem bind {x : Action α} {f : α → Action β} (first : Blind v x) (next : ∀ a, Blind v (f a)) :
    Blind v (x >>= f) :=
  fun _ _ h => (first h).run_bind fun a _ _ h' => next a h'

theorem map {x : Action α} (h : Blind v x) (f : α → β) : Blind v (f <$> x) :=
  h.bind fun a => .pure (f a)

theorem get_bind {f : Store → Action β}
    (h : ∀ ⦃s t⦄, Alike v s t → InStep v ((f s).run s) ((f t).run t)) : Blind v (get >>= f) :=
  h

theorem modify {g : Store → Store} (h : ∀ ⦃s t⦄, Alike v s t → Alike v (g s) (g t)) :
    Blind v (modify g) :=
  fun _ _ alike => ⟨rfl, h alike⟩

theorem newObject (parent : Option ObjectRef) : Blind v (newObject parent) := fun _ _ h =>
  ⟨congrArg (fun xs : Array HeapObject => ObjectRef.mk xs.size) h.objects, h.newObject parent⟩

theorem newFunction (f : Function) : Blind v (newFunction f) := fun _ _ h =>
  ⟨congrArg (fun xs : Array Function => FunctionRef.mk xs.size) h.functions, h.newFunction f⟩

theorem newClass (k : Class) : Blind v (newClass k) := fun _ _ h =>
  ⟨congrArg ClassRef.mk h.classes_eq, h.newClass k⟩

theorem log (r : LogRecord) : Blind v (log r) := modify fun _ _ h => h.record r

theorem emit (d : DomainRef) (x : Diagnostic) : Blind v (emit d x) :=
  (log _).bind fun _ => modify fun _ _ h =>
    h.modifyDomain d (fun _ _ _ => rfl) fun _ _ same => congrArg (· ++ [x]) same

theorem forM {xs : List α} {f : α → Action Unit} (h : ∀ a, Blind v (f a)) :
    Blind v (xs.forM f) := by
  induction xs with
  | nil => exact .pure ()
  | cons a xs ih => exact (h a).bind fun _ => ih

theorem mapM {xs : List α} {f : α → Action β} (h : ∀ a, Blind v (f a)) :
    Blind v (xs.mapM f) := by
  induction xs with
  | nil => exact .pure []
  | cons a xs ih =>
    rw [List.mapM_cons]
    exact (h a).bind fun b => ih.bind fun bs => .pure (b :: bs)

theorem foldlM {xs : List α} {f : β → α → Action β} (h : ∀ b a, Blind v (f b a)) (b : β) :
    Blind v (xs.foldlM f b) := by
  induction xs generalizing b with
  | nil => exact .pure b
  | cons a xs ih =>
    rw [List.foldlM_cons]
    exact (h b a).bind ih

end Blind

namespace BlindRun

theorem pure (a : α) : BlindRun v (Pure.pure a) := fun _ _ h => ⟨rfl, h⟩

theorem throw (e : Fault) : BlindRun v (throw e : Run α) := fun _ _ h => ⟨rfl, h⟩

theorem lift {x : Action α} (h : Blind v x) : BlindRun v (liftM x) := fun _ _ alike =>
  ⟨congrArg Except.ok (h alike).value, (h alike).alike⟩

theorem modify {g : Store → Store} (h : ∀ ⦃s t⦄, Alike v s t → Alike v (g s) (g t)) :
    BlindRun v (modify g) :=
  fun _ _ alike => ⟨rfl, h alike⟩

theorem bind {x : Run α} {f : α → Run β} (first : BlindRun v x) (next : ∀ a, BlindRun v (f a)) :
    BlindRun v (x >>= f) :=
  fun _ _ h => (first h).exec_bind fun a _ _ h' => next a h'

theorem get_bind {f : Store → Run β}
    (h : ∀ ⦃s t⦄, Alike v s t → InStep v (exec (f s) s) (exec (f t) t)) :
    BlindRun v (get >>= f) :=
  h

theorem forIn {xs : List α} {f : α → Action Unit} (h : ∀ a, Blind v (f a)) :
    BlindRun v (forIn xs PUnit.unit fun a _ => do
      liftM (f a); Pure.pure (ForInStep.yield PUnit.unit)) := by
  intro s t alike
  have step : InStep v ((xs.forM f).run s) ((xs.forM f).run t) := Blind.forM h alike
  rw [run_forM, run_forM] at step
  rw [exec_forIn_lift, exec_forIn_lift]
  exact ⟨rfl, step.alike⟩

theorem mapM {xs : List α} {f : α → Run β} (h : ∀ a, BlindRun v (f a)) :
    BlindRun v (xs.mapM f) := by
  induction xs with
  | nil => exact .pure []
  | cons a xs ih =>
    rw [List.mapM_cons]
    exact (h a).bind fun b => ih.bind fun bs => .pure (b :: bs)

end BlindRun

end

end ClassLink
