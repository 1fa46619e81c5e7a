import ClassLink.Proofs.Installing

/-!
# The hierarchy of linked classes

Classes are linked one after the other, in any number of domains; a link may fail. `Linking`
says which stores are reached so and which classes have been linked. In every one of them each
linked class is *finished*: it has its constructor, its template and its delegate, these are
wired to each other as its strategy says, and it owns its three objects. Since every object has
one owner, no two classes share one. A base is linked before the classes that derive from it,
so both chains come to an end.
-/

namespace ClassLink

/-! ### Finished classes -/

/-- A class is finished: its constructor is `f`, and it is wired by `w`. -/
structure Store.Finished (s : Store) (c : ClassRef) (f : FunctionRef) (w : Wiring) : Prop where
  inside : c.index < s.classes.size
  function_inside : f.index < s.functions.size
  object_inside : (s.classAt c).object.index < s.objects.size
  template_inside : w.template.index < s.objects.size
  delegate_inside : w.delegate.index < s.objects.size
  wiring : (s.classAt c).wiring = some w
  constructor : (s.classAt c).constructor = some f
  constructorNoInit : (s.classAt c).constructorNoInit = some f
  /-- The constructor makes instances. -/
  template : s.template f = some w.template
  /-- A template that was taken over is the delegate, and delegates to nothing. -/
  takeover : w.strategy = .takeover → w.template = w.delegate ∧ s.parent w.template = none
  /-- A template that was made delegates to the delegate, and that to the delegate of the base. -/
  build : w.strategy = .build → s.parent w.template = some w.delegate ∧
    s.parent w.delegate = w.base.bind fun b => (s.classAt b).delegate?
  owner_object : s.owner (s.classAt c).object = some c
  owner_template : s.owner w.template = some c
  owner_delegate : s.owner w.delegate = some c

namespace Store

variable {s t : Store} {c b : ClassRef} {f : FunctionRef} {w : Wiring}

theorem Finished.base (h : s.Finished c f w) : s.base c = w.base := by
  rw [Store.base, Class.base?, h.wiring, Option.bind_some]

theorem Finished.template? (h : s.Finished c f w) : (s.classAt c).template? = some w.template := by
  rw [Class.template?, h.wiring, Option.map_some]

theorem Finished.delegate? (h : s.Finished c f w) : (s.classAt c).delegate? = some w.delegate := by
  rw [Class.delegate?, h.wiring, Option.map_some]

/-- A finished class stays finished, if its base does not change. -/
theorem Finished.keeps (h : s.Finished c f w) (k : s.Keeps t)
    (base : ∀ b, w.base = some b → b.index < s.classes.size) : t.Finished c f w := by
  have same := k.classAt c h.inside
  refine ⟨h.inside.trans_le k.classes_le, h.function_inside.trans_le k.functions_le,
    same ▸ h.object_inside.trans_le k.objects_le, h.template_inside.trans_le k.objects_le,
    h.delegate_inside.trans_le k.objects_le, same ▸ h.wiring, same ▸ h.constructor,
    same ▸ h.constructorNoInit, ?_, fun e => ?_, fun e => ?_, ?_, ?_, ?_⟩
  · rw [Store.template, k.function f h.function_inside]
    exact h.template
  · rw [k.parent _ h.template_inside]
    exact h.takeover e
  · rw [k.parent _ h.template_inside, k.parent _ h.delegate_inside]
    refine ⟨(h.build e).1, (h.build e).2.trans ?_⟩
    cases hb : w.base with
    | none => rfl
    | some b => rw [Option.bind_some, Option.bind_some, k.classAt b (base b hb)]
  · rw [same, k.owner _ h.object_inside]
    exact h.owner_object
  · rw [k.owner _ h.template_inside]
    exact h.owner_template
  · rw [k.owner _ h.delegate_inside]
    exact h.owner_delegate

end Store

/-- The classes of a list are finished, and each comes after its base, which is of the list. -/
structure Hierarchy (s : Store) (cs : List ClassRef) : Prop where
  finished : ∀ c ∈ cs, ∃ f w, s.Finished c f w
  base : ∀ c ∈ cs, ∀ b, s.base c = some b → b ∈ cs ∧ b.index < c.index

namespace Hierarchy

variable {s t : Store} {cs : List ClassRef} {c : ClassRef}

theorem keeps (h : Hierarchy s cs) (k : s.Keeps t) : Hierarchy t cs := by
  refine ⟨fun c hc => ?_, fun c hc b hb => ?_⟩
  · obtain ⟨f, w, finished⟩ := h.finished c hc
    refine ⟨f, w, finished.keeps k fun b hb => ?_⟩
    obtain ⟨_, _, base⟩ := h.finished b (h.base c hc b (finished.base.trans hb)).1
    exact base.inside
  · obtain ⟨f, w, finished⟩ := h.finished c hc
    rw [Store.base, k.classAt c finished.inside] at hb
    exact h.base c hc b hb

/-- The classes of the list are in the store. -/
theorem inside (h : Hierarchy s cs) (hc : c ∈ cs) : c.index < s.classes.size := by
  obtain ⟨_, _, finished⟩ := h.finished c hc
  exact finished.inside

/-- The chain of bases comes to an end. -/
theorem bases_end (h : Hierarchy s cs) (hc : c ∈ cs) : Chain.Ends s.base c := by
  induction hn : c.index using Nat.strong_induction_on generalizing c with
  | _ n ih =>
    cases hb : s.base c with
    | none => exact .last hb
    | some b =>
      obtain ⟨mem, lt⟩ := h.base c hc b hb
      exact .step hb (ih b.index (hn ▸ lt) mem rfl)

/-- The delegation chain of a delegate comes to an end, and stays as it is. -/
theorem delegate_ends (h : Hierarchy s cs) (k : s.KeepsLinks t) (hc : c ∈ cs) {f : FunctionRef}
    {w : Wiring} (finished : s.Finished c f w) : Chain.Ends t.parent w.delegate := by
  induction hn : c.index using Nat.strong_induction_on generalizing c f w with
  | _ n ih =>
    have kept := k.parent _ finished.delegate_inside
    cases hw : w.strategy with
    | takeover =>
      obtain ⟨same, parent⟩ := finished.takeover hw
      exact .last (kept.trans (same ▸ parent))
    | build =>
      have parent := kept.trans (finished.build hw).2
      cases hb : w.base with
      | none => exact .last (by rw [parent, hb]; rfl)
      | some b =>
        obtain ⟨mem, lt⟩ := h.base c hc b (finished.base.trans hb)
        obtain ⟨f', w', base⟩ := h.finished b mem
        rw [hb, Option.bind_some, base.delegate?] at parent
        exact .step parent (ih b.index (hn ▸ lt) mem base rfl)

/-- The delegation chain of a template comes to an end, and stays as it is. -/
theorem template_ends (h : Hierarchy s cs) (k : s.KeepsLinks t) (hc : c ∈ cs) {f : FunctionRef}
    {w : Wiring} (finished : s.Finished c f w) : Chain.Ends t.parent w.template := by
  have kept := k.parent _ finished.template_inside
  cases hw : w.strategy with
  | takeover => exact .last (kept.trans (finished.takeover hw).2)
  | build => exact .step (kept.trans (finished.build hw).1) (h.delegate_ends k hc finished)

end Hierarchy

/-! ### Linking a class -/

section
variable {d : DomainRef} {descriptor : ClassDescriptor} {base : Option ClassRef} {scope : Scope}
  {s t : Store} {c : ClassRef} {x : LinkTrace}

/-- A class that was linked over a class of the store is finished. -/
theorem LinkStages.finished (h : LinkStages d descriptor base scope s t c x)
    (lt : d.index < s.domains.size) (old : ∀ b, base = some b → b.index < s.classes.size) :
    t.Finished c (x.constructor c) x.wiring := by
  have prepared := h.begun.prepared
  have created := h.created
  obtain ⟨objects_le, functions_le, classes_le⟩ := h.prepared_le
  have later := h.confined_later lt
  have last := h.announced.keeps
  have parent : ∀ o : ObjectRef, o.index < x.created.objects.size →
      t.parent o = x.created.parent o := fun o ho =>
    (h.announced.links o).1.trans (later.parent o ho (Set.notMem_empty o))
  have owner : ∀ o : ObjectRef, o.index < x.created.objects.size →
      t.owner o = x.created.owner o := fun o ho =>
    (h.announced.links o).2.trans (later.owner o ho (Set.notMem_empty o))
  have function_lt : (x.constructor c).index < x.created.functions.size :=
    prepared.constructor_new.2.trans_le functions_le
  have objects_le' := later.objects_le.trans last.objects_le
  have class_ := h.classAt lt
  rw [created.classAt] at class_
  have object_lt := prepared.parts.object.2.trans_le objects_le
  refine ⟨prepared.lt.trans_le (classes_le.trans (later.classes_le.trans last.classes_le)),
    function_lt.trans_le (later.functions_le.trans last.functions_le),
    ?_, created.template_lt.trans_le objects_le', created.delegate_lt.trans_le objects_le',
    by rw [class_], by rw [class_], by rw [class_], ?_, fun e => ?_, fun e => ?_, ?_, ?_, ?_⟩
  · rw [class_]
    exact object_lt.trans_le objects_le'
  · rw [Store.template, last.function _ (function_lt.trans_le later.functions_le),
      later.function _ function_lt (Set.notMem_empty _)]
    exact created.template
  · obtain ⟨same, own, kept⟩ := created.takeover e
    rw [parent _ created.template_lt, kept]
    exact ⟨same.symm, (prepared.hostTemplate_new own).2.2⟩
  · obtain ⟨_, _, up, above, _⟩ := created.build e
    rw [parent _ created.template_lt, parent _ created.delegate_lt, above, created.base]
    refine ⟨up, ?_⟩
    cases hb : base with
    | none => rfl
    | some b =>
      rw [Option.bind_some, Option.bind_some, (h.keeps lt).classAt b (old b hb),
        prepared.confined.classAt b (old b hb) (Set.notMem_empty b)]
  · rw [class_, owner _ object_lt]
    exact prepared.owner_object h.creating
  · rw [owner _ created.template_lt]
    exact created.owner_template
  · rw [owner _ created.delegate_lt]
    exact created.owner_delegate

/-- A link that succeeds adds a class to the hierarchy. -/
theorem Hierarchy.linked {cs : List ClassRef} (h : Hierarchy s cs) (lt : d.index < s.domains.size)
    (old : ∀ b, base = some b → b ∈ cs)
    (run : exec (link d descriptor base scope) s = (.ok c, t)) : Hierarchy t (c :: cs) := by
  obtain ⟨x, stages⟩ := linkStages_of_link lt run
  have finished := stages.finished lt fun b hb => h.inside (old b hb)
  have kept := h.keeps (stages.keeps lt)
  refine ⟨fun k hk => ?_, fun k hk b hb => ?_⟩
  · rcases List.mem_cons.mp hk with rfl | hk
    · exact ⟨_, _, finished⟩
    · exact kept.finished k hk
  · rcases List.mem_cons.mp hk with rfl | hk
    · rw [finished.base, stages.created.base] at hb
      have new := stages.begun.prepared.le
      exact ⟨List.mem_cons_of_mem _ (old b hb), (h.inside (old b hb)).trans_le new⟩
    · obtain ⟨mem, lt⟩ := kept.base k hk b hb
      exact ⟨List.mem_cons_of_mem _ mem, lt⟩

end

/-! ### Runs of links -/

/-- A store reached by linking, and the classes linked, the latest first. -/
inductive Linking : Store → List ClassRef → Prop
  /-- Nothing is linked yet; any host classes may be registered. -/
  | start (natives : NativeRegistry) : Linking { Store.initial with natives := natives } []
  /-- A domain is opened. -/
  | domain {s : Store} {cs : List ClassRef} (options : Options) (synthesizer : Synthesizer) :
      Linking s cs → Linking ((newDomain options synthesizer).run s).2 cs
  /-- A host class is registered. -/
  | register {s t : Store} {cs : List ClassRef} {definition : NativeDefinition} :
      Linking s cs → exec (registerNative definition) s = (.ok (), t) → Linking t cs
  /-- A class is linked, over none or over a class that was. -/
  | linked {s t : Store} {cs : List ClassRef} {d : DomainRef} {descriptor : ClassDescriptor}
      {base : Option ClassRef} {scope : Scope} {c : ClassRef} :
      Linking s cs → d.index < s.domains.size → (∀ b, base = some b → b ∈ cs) →
      exec (link d descriptor base scope) s = (.ok c, t) → Linking t (c :: cs)
  /-- A link fails, and what it has written stays written. -/
  | failed {s t : Store} {cs : List ClassRef} {d : DomainRef} {descriptor : ClassDescriptor}
      {base : Option ClassRef} {scope : Scope} {e : Fault} :
      Linking s cs → d.index < s.domains.size → (∀ b, base = some b → b ∈ cs) →
      exec (link d descriptor base scope) s = (.error e, t) → Linking t cs

theorem keeps_newDomain (options : Options) (synthesizer : Synthesizer) (s : Store) :
    s.Keeps ((newDomain options synthesizer).run s).2 := by
  have object := confined_newObject .none s none
  refine ⟨object.objects_le, le_rfl, le_rfl, ?_, fun o ho => object.parent o ho (Set.notMem_empty o),
    fun o ho => object.owner o ho (Set.notMem_empty o), fun _ _ => rfl, fun _ _ => rfl⟩
  exact (Nat.le_succ _).trans (Array.size_push ..).ge

/-- Registering a host class writes the registry and the log. -/
theorem store_registerNative {definition : NativeDefinition} {s t : Store}
    (h : exec (registerNative definition) s = (.ok (), t)) :
    ∃ natives log, t = { s with natives := natives, log := log } := by
  unfold registerNative at h
  rw [exec_get_bind] at h
  cases registered : s.natives.register definition with
  | error e => rw [registered] at h; cases h
  | ok natives =>
    rw [registered] at h
    exact ⟨natives, _, (Prod.mk.inj h).2.symm⟩

theorem keeps_registerNative {definition : NativeDefinition} {s t : Store}
    (h : exec (registerNative definition) s = (.ok (), t)) : s.Keeps t := by
  obtain ⟨natives, log, rfl⟩ := store_registerNative h
  exact { Store.Keeps.refl s with }

theorem keeps_of_failed_link {d : DomainRef} {descriptor : ClassDescriptor}
    {base : Option ClassRef} {scope : Scope} {s t : Store} {e : Fault}
    (lt : d.index < s.domains.size) (h : exec (link d descriptor base scope) s = (.error e, t)) :
    s.Keeps t :=
  (confined_of_failed_link lt h).keeps_of_beyond

/-- Every store reached by linking is a hierarchy. -/
theorem Linking.hierarchy {s : Store} {cs : List ClassRef} (h : Linking s cs) : Hierarchy s cs := by
  induction h with
  | start => exact ⟨fun _ hc => absurd hc List.not_mem_nil, fun _ hc => absurd hc List.not_mem_nil⟩
  | domain options synthesizer _ ih => exact ih.keeps (keeps_newDomain options synthesizer _)
  | register _ run ih => exact ih.keeps (keeps_registerNative run)
  | linked _ lt old run ih => exact ih.linked lt old run
  | failed _ lt _ run ih => exact ih.keeps (keeps_of_failed_link lt run)

/-- The class object, the template and the delegate of a class. -/
def Store.objectsOf (s : Store) (c : ClassRef) : List ObjectRef :=
  (s.classAt c).object :: ((s.classAt c).template?.toList ++ (s.classAt c).delegate?.toList)

/-- A finished class owns its objects. -/
theorem Store.Finished.owner {s : Store} {c : ClassRef} {f : FunctionRef} {w : Wiring}
    (h : s.Finished c f w) {o : ObjectRef} (ho : o ∈ s.objectsOf c) : s.owner o = some c := by
  rw [Store.objectsOf, h.template?, h.delegate?] at ho
  rcases List.mem_cons.mp ho with rfl | ho
  · exact h.owner_object
  rcases List.mem_cons.mp ho with rfl | ho
  · exact h.owner_template
  · obtain rfl := List.mem_singleton.mp ho
    exact h.owner_delegate

/-- A linked class is finished, shares no object with another linked class, and neither the chain of
its bases nor the delegation chain of its template runs into itself. -/
structure Store.WellWired (s : Store) (cs : List ClassRef) (c : ClassRef) (f : FunctionRef)
    (w : Wiring) : Prop extends s.Finished c f w where
  base_linked : ∀ b, w.base = some b → b ∈ cs
  apart : ∀ k ∈ cs, k ≠ c → ∀ o ∈ s.objectsOf c, o ∉ s.objectsOf k
  bases_end : Chain.Ends s.base c
  delegation_ends : Chain.Ends s.parent w.template

/-- **Linked classes form a hierarchy.** In every store reached by linking every linked class is
wired as its strategy says, to objects of its own. -/
theorem wellWired_of_linking {s : Store} {cs : List ClassRef} (h : Linking s cs) {c : ClassRef}
    (hc : c ∈ cs) : ∃ f w, s.WellWired cs c f w := by
  have hierarchy := h.hierarchy
  obtain ⟨f, w, finished⟩ := hierarchy.finished c hc
  refine ⟨f, w, finished, fun b hb => ?_, fun k hk ne o ho shared => ?_, hierarchy.bases_end hc,
    hierarchy.template_ends (.refl s) hc finished⟩
  · exact (hierarchy.base c hc b (finished.base.trans hb)).1
  · obtain ⟨_, _, other⟩ := hierarchy.finished k hk
    exact ne (Option.some.inj ((other.owner shared).symm.trans (finished.owner ho)))

/-! ### Two classes -/

/-- A public class of bytecode that declares no members. -/
def ClassDescriptor.bare (name : String) : ClassDescriptor where
  name := .plain name
  superName := none
  nativeId := none
  staticTraits := []
  instanceTraits := []
  instanceInit := .bytecode 0 none 0

namespace Sample

/-- A store with one domain and no host classes. -/
def opened : Store :=
  ((newDomain .standard .inert).run { Store.initial with natives := .empty }).2

/-- Linking a class without base. -/
def linkBase : Run ClassRef := link ⟨0⟩ (.bare "Base") none (.global ⟨0⟩)

/-- Linking a class over it. -/
def linkDerived : Run ClassRef := link ⟨0⟩ (.bare "Derived") (some ⟨0⟩) (.global ⟨0⟩)

/-- The store with the first class. -/
def one : Store := (exec linkBase opened).2

/-- The store with both classes. -/
def two : Store := (exec linkDerived one).2

theorem linking_one : Linking one [⟨0⟩] :=
  .linked (.domain .standard .inert (.start .empty)) (by decide +kernel) (by simp)
    (exec_eq_of_toOption (x := linkBase) (by decide +kernel))

theorem linking_two : Linking two [⟨1⟩, ⟨0⟩] :=
  .linked linking_one (by decide +kernel) (by simp)
    (exec_eq_of_toOption (x := linkDerived) (by decide +kernel))

end Sample

/-- A class over another one. -/
theorem wellWired_of_linking_derived :
    ∃ f w, Linking Sample.two [⟨1⟩, ⟨0⟩] ∧ Sample.two.WellWired [⟨1⟩, ⟨0⟩] ⟨1⟩ f w := by
  obtain ⟨f, w, wired⟩ := wellWired_of_linking Sample.linking_two (c := ⟨1⟩) List.mem_cons_self
  exact ⟨f, w, Sample.linking_two, wired⟩

end ClassLink
