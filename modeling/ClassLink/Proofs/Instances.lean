import ClassLink.Class.Use
import ClassLink.Proofs.Chains
import ClassLink.Proofs.Hierarchy

/-!
# The instances of a class and of its bases

An object is an instance of a class if it reaches the template of the class. From the template of
a class that was built the chain goes to its delegate, and on through the delegates of its bases,
up to the first base that took its template over. It never meets the template of a base that was
built, which lies below the delegate of the base and belongs to its instances alone. So an
instance of a class is an instance of a base on this chain exactly if the base took its template
over, and then template and delegate are one object.

What a class constructs is one of its instances as long as the body of the constructor, which may do
anything, does not give objects other parents. So this is said of any way to call functions, and of
a call that leaves links as they are (`Hierarchy.construct_new`).
-/

namespace ClassLink

namespace Store

variable {s t : Store} {c b : ClassRef} {o : ObjectRef}

/-- An object is an instance of a class if it reaches the template. -/
theorem isInstance_object_iff {p : ObjectRef} (h : (s.classAt c).template? = some p) :
    s.isInstance c (.object o) = true ↔ Chain.Reaches s.parent o p := by
  rw [isInstance, h]
  simp only [Bool.or_eq_true, decide_eq_true_eq, inheritsFrom_iff]
  exact Chain.reaches_iff.symm

/-- A class that coerces to its instances passes an object exactly if it is one. -/
theorem coerce_object_iff (h : (s.classAt c).coercion = .instance) :
    s.coerce c (.object o) = .ok (.object o) ↔ s.isInstance c (.object o) = true := by
  rw [coerce]
  simp only [h]
  cases s.isInstance c (.object o) <;> simp [Value.isNullish]

/-- `b` is a class or a base above it, and every class from there up to `b`, which is left out, was
built. -/
inductive BuiltUpTo (s : Store) : ClassRef → ClassRef → Prop
  | refl (c : ClassRef) : s.BuiltUpTo c c
  | step {c a b : ClassRef} : (s.classAt c).strategy? = some .build → s.base c = some a →
      s.BuiltUpTo a b → s.BuiltUpTo c b

end Store

/-! ### The chain above a template -/

section
variable {s t : Store} {cs : List ClassRef} {c b : ClassRef} {f g : FunctionRef} {w x : Wiring}

theorem Store.Finished.strategy? (h : s.Finished c f w) :
    (s.classAt c).strategy? = some w.strategy := by
  rw [Class.strategy?, h.wiring, Option.map_some]

namespace Hierarchy

theorem mem_of_builtUpTo (h : Hierarchy s cs) (path : s.BuiltUpTo c b) (hc : c ∈ cs) : b ∈ cs := by
  induction path with
  | refl => exact hc
  | step _ above _ ih => exact ih (h.base _ hc _ above).1

theorem index_le_of_builtUpTo (h : Hierarchy s cs) (path : s.BuiltUpTo c b) (hc : c ∈ cs) :
    b.index ≤ c.index := by
  induction path with
  | refl => exact le_rfl
  | step _ above _ ih =>
    obtain ⟨mem, lt⟩ := h.base _ hc _ above
    exact (ih mem).trans lt.le

variable (h : Hierarchy s cs) (k : s.KeepsLinks t)
include h k

/-- The delegate of a class that was built delegates to the delegate of its base. -/
theorem parent_delegate {a : ClassRef} (hc : c ∈ cs) (finished : s.Finished c f w)
    (built : (s.classAt c).strategy? = some .build) (above : s.base c = some a) :
    ∃ f' y, a ∈ cs ∧ s.Finished a f' y ∧ t.parent w.delegate = some y.delegate := by
  obtain ⟨mem, _⟩ := h.base c hc a above
  obtain ⟨f', y, base⟩ := h.finished a mem
  have strategy := Option.some.inj (finished.strategy?.symm.trans built)
  have parent := (k.parent _ finished.delegate_inside).trans (finished.build strategy).2
  rw [← finished.base, above, Option.bind_some, base.delegate?] at parent
  exact ⟨f', y, mem, base, parent⟩

/-- The delegate of a class reaches those of its bases. -/
theorem reaches_delegate (path : s.BuiltUpTo c b) (hc : c ∈ cs) (finished : s.Finished c f w)
    (base : s.Finished b g x) : Chain.Reaches t.parent w.delegate x.delegate := by
  induction path generalizing f w with
  | refl =>
    obtain rfl := Option.some.inj (finished.wiring.symm.trans base.wiring)
    exact .refl
  | step built above _ ih =>
    obtain ⟨_, _, mem, middle, parent⟩ := h.parent_delegate k hc finished built above
    exact .head parent (ih mem middle base)

/-- A template that was built is no delegate. -/
theorem delegate_ne_template (hb : b ∈ cs) (finished : s.Finished c f w) (base : s.Finished b g x)
    (built : x.strategy = .build) : w.delegate ≠ x.template := by
  intro same
  have owner := finished.owner_delegate
  rw [same, base.owner_template] at owner
  obtain rfl := Option.some.inj owner
  obtain rfl := Option.some.inj (finished.wiring.symm.trans base.wiring)
  have parent := (k.parent _ base.template_inside).trans (base.build built).1
  rw [same] at parent
  exact (h.template_ends k hb base).irrefl (.next parent)

/-- The delegate of a class does not reach the template of a base that was built. -/
theorem not_reaches_template (path : s.BuiltUpTo c b) (hc : c ∈ cs) (finished : s.Finished c f w)
    (base : s.Finished b g x) (built : x.strategy = .build) :
    ¬Chain.Reaches t.parent w.delegate x.template := by
  have hb := h.mem_of_builtUpTo path hc
  have apart := fun {c f w} (finished : s.Finished c f w) =>
    h.delegate_ne_template k hb finished base built
  induction path generalizing f w with
  | refl =>
    -- the template delegates to the delegate, so they would reach each other
    obtain rfl := Option.some.inj (finished.wiring.symm.trans base.wiring)
    have down : Chain.Reaches t.parent w.template w.delegate :=
      .single ((k.parent _ base.template_inside).trans (base.build built).1)
    exact fun up => apart finished ((h.template_ends k hb base).antisymm down up).symm
  | step below above _ ih =>
    obtain ⟨_, _, mem, middle, parent⟩ := h.parent_delegate k hc finished below above
    intro up
    rcases Chain.reaches_iff.mp up with same | up
    · exact apart finished same
    · exact ih mem middle base hb (up.reaches parent)

/-- **Instances of bases.** What reaches the template of a class reaches that of a base exactly if
the base is the class itself or took its template over. -/
theorem reaches_template_iff {o : ObjectRef} (path : s.BuiltUpTo c b) (hc : c ∈ cs)
    (finished : s.Finished c f w) (base : s.Finished b g x)
    (instance_ : Chain.Reaches t.parent o w.template) :
    Chain.Reaches t.parent o x.template ↔ b = c ∨ x.strategy = .takeover := by
  cases path with
  | refl =>
    obtain rfl := Option.some.inj (finished.wiring.symm.trans base.wiring)
    exact iff_of_true instance_ (.inl rfl)
  | @step _ a _ below above path =>
    have strategy := Option.some.inj (finished.strategy?.symm.trans below)
    have first := (k.parent _ finished.template_inside).trans (finished.build strategy).1
    have full : s.BuiltUpTo c b := .step below above path
    have hb := h.mem_of_builtUpTo full hc
    have up := Chain.Reaches.head first (h.reaches_delegate k full hc finished base)
    have apart : b ≠ c := by
      rintro rfl
      obtain ⟨mem, lt⟩ := h.base _ hc _ above
      exact absurd (h.index_le_of_builtUpTo path mem) lt.not_ge
    cases hx : x.strategy with
    | takeover =>
      refine iff_of_true (instance_.trans ?_) (.inr rfl)
      rw [(base.takeover hx).1]
      exact up
    | build =>
      have last := (k.parent _ base.template_inside).trans (base.build hx).1
      have distinct : w.template ≠ x.template := fun same => by
        have owner := finished.owner_template
        rw [same, base.owner_template] at owner
        exact apart (Option.some.inj owner)
      refine iff_of_false (fun other => ?_) (not_or.mpr ⟨apart, by simp⟩)
      -- of the two templates one would reach the other, along its delegate
      rcases instance_.total other with meets | meets
      · have meets := (Chain.reaches_iff.mp meets).resolve_left distinct
        exact h.not_reaches_template k full hc finished base hx (meets.reaches first)
      · have meets := (Chain.reaches_iff.mp meets).resolve_left distinct.symm
        have same := (h.delegate_ends k hb base).antisymm (meets.reaches last) up
        exact h.delegate_ne_template k hc base finished strategy same

end Hierarchy

end

/-! ### The instances of linked classes -/

/-- A class takes a value for one of its instances exactly if `p`: in its test, and in its coercion
if it coerces to its instances. -/
structure Store.AcceptsIff (s : Store) (c : ClassRef) (v : Value) (p : Prop) : Prop where
  isInstance : s.isInstance c v = true ↔ p
  coerce : (s.classAt c).coercion = .instance → (s.coerce c v = .ok v ↔ p)

/-! ### What a class constructs -/

/-- Constructing gives the object that it makes if the body gives none. -/
theorem exec_instantiateBy {invoke : Invoke} {f : FunctionRef} {template : ObjectRef}
    {args : List Value} {s t : Store} {r : Value} (has : s.template f = some template)
    (hook : (s.function f).constructHook = none)
    (body : exec (invoke f (.object ⟨s.objects.size⟩) args) ((newObject (some template)).run s).2 =
      (.ok r, t))
    (object : ∀ x, r ≠ .object x) (function : ∀ x, r ≠ .function x) :
    exec (instantiateBy invoke f args) s = (.ok (.object ⟨s.objects.size⟩), t) := by
  unfold instantiateBy
  rw [exec_get_bind]
  simp only [show (s.function f).template = some template from has, hook]
  rw [exec_lift_bind, newObject_fst, exec_bind, body]
  cases r with
  | object x => exact absurd rfl (object x)
  | function x => exact absurd rfl (function x)
  | _ => rfl

/-- The store in which the body of the constructor runs: there is a new object that delegates to the
template. -/
def Store.withInstance (s : Store) (c : ClassRef) : Store :=
  ((newObject (s.classAt c).template?).run s).2

/-- The constructor of a class has no hook, and its body, run on the new object, leaves the store
`t` and gives neither an object nor a function. -/
def Store.ConstructsNew (s : Store) (invoke : Invoke) (c : ClassRef) (args : List Value)
    (t : Store) : Prop :=
  ∃ f r, (s.classAt c).constructor = some f ∧ (s.function f).constructHook = none ∧
    exec (invoke f (.object ⟨s.objects.size⟩) args) (s.withInstance c) = (.ok r, t) ∧
    (∀ x, r ≠ .object x) ∧ ∀ x, r ≠ .function x

namespace Hierarchy

variable {s t u : Store} {cs : List ClassRef} {c b : ClassRef} {o : ObjectRef}

theorem acceptsIff (h : Hierarchy s cs) (k : s.KeepsLinks t) (hc : c ∈ cs)
    (path : s.BuiltUpTo c b) (instance_ : t.isInstance c (.object o) = true) :
    t.AcceptsIff b (.object o) (b = c ∨ (s.classAt b).strategy? = some .takeover) := by
  obtain ⟨f, w, finished⟩ := h.finished c hc
  obtain ⟨g, x, base⟩ := h.finished b (h.mem_of_builtUpTo path hc)
  have template := k.classAt c finished.inside ▸ finished.template?
  have template' := k.classAt b base.inside ▸ base.template?
  have test : t.isInstance b (.object o) = true ↔
      b = c ∨ (s.classAt b).strategy? = some .takeover := by
    rw [Store.isInstance_object_iff template', base.strategy?, Option.some.injEq]
    rw [Store.isInstance_object_iff template] at instance_
    exact h.reaches_template_iff k path hc finished base instance_
  exact ⟨test, fun coerces => (Store.coerce_object_iff coerces).trans test⟩

/-- What a class constructs is an instance of it, if the body of the constructor leaves links as
they are. -/
theorem construct_new {invoke : Invoke} (h : Hierarchy s cs) (k : s.Keeps t) (hc : c ∈ cs)
    {args : List Value} (body : t.ConstructsNew invoke c args u)
    (links : (t.withInstance c).KeepsLinks u) :
    exec (constructBy invoke c args) t = (.ok (.object ⟨t.objects.size⟩), u) ∧ s.KeepsLinks u ∧
      u.isInstance c (.object ⟨t.objects.size⟩) = true := by
  obtain ⟨f, r, constructor, hook, run, object, function⟩ := body
  obtain ⟨f', w, finished⟩ := h.finished c hc
  have class_ := k.classAt c finished.inside
  rw [class_, finished.constructor] at constructor
  obtain rfl := Option.some.inj constructor
  have has : t.template f' = some w.template := by
    rw [Store.template, k.function f' finished.function_inside]
    exact finished.template
  rw [Store.withInstance, class_, finished.template?] at run links
  have made : t.KeepsLinks ((newObject (some w.template)).run t).2 :=
    (confined_newObject .none t (some w.template)).keepsLinks (fun _ => Set.notMem_empty _)
      fun _ => Set.notMem_empty _
  have all := (k.links.trans made).trans links
  refine ⟨?_, all, ?_⟩
  · unfold constructBy
    rw [exec_get_bind]
    simp only [class_, finished.constructor]
    exact exec_instantiateBy has hook run object function
  · have instances : (u.classAt c).template? = some w.template :=
      all.classAt c finished.inside ▸ finished.template?
    rw [Store.isInstance_object_iff instances]
    refine .single ?_
    rw [links.parent _ (by simp), newObject_parent]

end Hierarchy

/-- **Instances of bases.** In every store reached by linking, and after whatever leaves its links
as they are, an instance of a linked class is an instance of a base that is reached over classes
that were built exactly if the base is the class itself or took its template over. This holds of
what the class constructs, however functions are called, if its constructor has no hook and the body
gives no object of its own and leaves links as they are. -/
theorem acceptsIff_of_linking {s : Store} {cs : List ClassRef} (h : Linking s cs)
    {c b : ClassRef} (hc : c ∈ cs) (path : s.BuiltUpTo c b) :
    (∀ t o, s.KeepsLinks t → t.isInstance c (.object o) = true →
      t.AcceptsIff b (.object o) (b = c ∨ (s.classAt b).strategy? = some .takeover)) ∧
    ∀ (invoke : Invoke) t u args, s.Keeps t → t.ConstructsNew invoke c args u →
      (t.withInstance c).KeepsLinks u →
      exec (constructBy invoke c args) t = (.ok (.object ⟨t.objects.size⟩), u) ∧
        u.AcceptsIff b (.object ⟨t.objects.size⟩)
          (b = c ∨ (s.classAt b).strategy? = some .takeover) := by
  have hierarchy := h.hierarchy
  refine ⟨fun t o k instance_ => hierarchy.acceptsIff k hc path instance_,
    fun invoke t u args k body kept => ?_⟩
  obtain ⟨run, links, instance_⟩ := hierarchy.construct_new k hc body kept
  exact ⟨run, hierarchy.acceptsIff links hc path instance_⟩

/-! ### Classes over a template that was taken over -/

namespace Sample

/-- A host class whose constructor has a fixed template. -/
def root : NativeDefinition :=
  { NativeDefinition.bare "root" with
    constructor := some (ConstructorDefinition.simple "Root" 0 (.script .receiver)).fixed }

/-- Linking a class over it. -/
def linkRoot : Run ClassRef :=
  link ⟨0⟩ { ClassDescriptor.bare "Root" with nativeId := some "root" } none (.global ⟨0⟩)

/-- A store with one domain and the host class. -/
def provided : Store :=
  ((newDomain .standard .inert).run
    { Store.initial with natives := ⟨[], [("root", root)], false⟩ }).2

/-- The store with a class over the host class, and a class over that. -/
def rooted : Store := (exec linkDerived (exec linkRoot provided).2).2

theorem linking_rooted : Linking rooted [⟨1⟩, ⟨0⟩] := by
  have first : Linking (exec linkRoot provided).2 [⟨0⟩] :=
    .linked (.domain .standard .inert (.start _)) (by decide +kernel) (by simp)
      (exec_eq_of_toOption (x := linkRoot) (by decide +kernel))
  exact .linked first (by decide +kernel) (by simp)
    (exec_eq_of_toOption (x := linkDerived) (by decide +kernel))

/-- The second of two classes was built over the first. -/
theorem builtUpTo_of_two {s : Store} (built : (s.classAt ⟨1⟩).strategy? = some .build)
    (base : s.base ⟨1⟩ = some ⟨0⟩) : s.BuiltUpTo ⟨1⟩ ⟨0⟩ :=
  .step built base (.refl ⟨0⟩)

/-- Bodies mark their receiver. -/
def marking : Invoke := fun _ this _ => do
  if let .object o := this then modify (·.modifyProperties o (·.defineValue "made" .null))
  return .undefined

/-- The store in which an instance of the second class has been marked. -/
def marked : Store :=
  (rooted.withInstance ⟨1⟩).modifyProperties ⟨rooted.objects.size⟩ (·.defineValue "made" .null)

end Sample

/-- An instance of the second class, which the body of the constructor has marked, is an instance of
the first, whose template was taken over. -/
theorem acceptsIff_of_linking_rooted : ∃ t o,
    exec (constructBy Sample.marking ⟨1⟩ []) Sample.rooted = (.ok (.object o), t) ∧
      t.isInstance ⟨0⟩ (.object o) = true := by
  have path : Sample.rooted.BuiltUpTo ⟨1⟩ ⟨0⟩ :=
    Sample.builtUpTo_of_two (by decide +kernel) (by decide +kernel)
  obtain ⟨_, constructs⟩ :=
    acceptsIff_of_linking Sample.linking_rooted (c := ⟨1⟩) List.mem_cons_self path
  have body : Sample.rooted.ConstructsNew Sample.marking ⟨1⟩ [] Sample.marked :=
    ⟨⟨2⟩, .undefined, by decide +kernel, by decide +kernel, rfl, by simp, by simp⟩
  have filled : Confined ⟨∅, Set.univ, ∅, ∅, ∅⟩ (Sample.rooted.withInstance ⟨1⟩) Sample.marked :=
    confined_modifyProperties (Set.mem_univ _) _
  obtain ⟨run, accepts⟩ := constructs _ _ _ [] (.refl _) body
    (filled.keepsLinks (fun _ => Set.notMem_empty _) fun _ => Set.notMem_empty _)
  exact ⟨_, _, run, accepts.isInstance.mpr (.inr (by decide +kernel))⟩

/-- An instance of a class is no instance of a base that was built, and the base does not coerce
it. -/
theorem not_isInstance_base :
    Linking Sample.two [⟨1⟩, ⟨0⟩] ∧ Sample.two.BuiltUpTo ⟨1⟩ ⟨0⟩ ∧
      (Sample.two.classAt ⟨1⟩).constructor.any
        (fun f => (Sample.two.function f).constructHook = none) = true ∧
      (Sample.two.classAt ⟨0⟩).coercion = .instance ∧
      ∃ t o, exec (construct ⟨1⟩ []) Sample.two = (.ok (.object o), t) ∧
        t.isInstance ⟨1⟩ (.object o) = true ∧ t.isInstance ⟨0⟩ (.object o) = false ∧
        t.coerce ⟨0⟩ (.object o) ≠ .ok (.object o) := by
  have run : exec (construct ⟨1⟩ []) Sample.two =
      (.ok (.object ⟨Sample.two.objects.size⟩), (exec (construct ⟨1⟩ []) Sample.two).2) :=
    exec_eq_of_toOption (by decide +kernel)
  have other : (exec (construct ⟨1⟩ []) Sample.two).2.isInstance ⟨0⟩
      (.object ⟨Sample.two.objects.size⟩) = false := by decide +kernel
  refine ⟨Sample.linking_two, Sample.builtUpTo_of_two (by decide +kernel) (by decide +kernel),
    by decide +kernel, by decide +kernel, _, _, run, by decide +kernel, other, fun coerced => ?_⟩
  rw [Store.coerce_object_iff (by decide +kernel), other] at coerced
  cases coerced

end ClassLink
