import ClassLink.Proofs.Chains
import ClassLink.Proofs.Retrying
import ClassLink.Proofs.Stubs

/-!
# What a link comes to

In a store reached by linking, over a base that was linked, a link fails for three reasons only,
which are asked in this order: its descriptor is not valid, its host class is not registered, or
it has a base and is the root, or has none and is not, and linking is strict
(`Store.linkFault?`). None of the other checks fails: the class is new, so it is not configured or
created yet; its base is finished; the constructor it is offered takes the template; and neither
chain runs into itself, since the chains of the hierarchy below do not.
-/

namespace ClassLink

variable {s t u : Store} {cs : List ClassRef} {d : DomainRef} {descriptor : ClassDescriptor}
  {base : Option ClassRef} {scope : Scope} {c : ClassRef} {offered : FunctionRef}

/-! ### What a link is to come to -/

namespace Store

/-- The host class that a descriptor names, if it is not registered. -/
def missingHost? (s : Store) (descriptor : ClassDescriptor) : Option String :=
  descriptor.nativeId.filter fun id => (s.natives.lookup id).isNone

/-- What is wrong with the base of a class: the root has one, or another class has none. -/
def misplaced? (s : Store) (descriptor : ClassDescriptor) (base : Option ClassRef) :
    Option StructuralProblem :=
  if descriptor.nativeId = some Builtins.objectClassId then
    base.map fun b => .rootHasBase (s.className b)
  else if base.isNone then some .noBase
  else none

/-- The fault that a link comes to. -/
def linkFault? (s : Store) (d : DomainRef) (descriptor : ClassDescriptor)
    (base : Option ClassRef) : Option Fault :=
  match descriptor.validate, s.missingHost? descriptor with
  | .error e, _ => some (.descriptor e)
  | .ok _, some id => some (.missingNativeClass id)
  | .ok _, none =>
    if (s.domain d).options.verify ∧ (s.domain d).options.strict then
      (s.misplaced? descriptor base).map fun p => .breach (.structural descriptor.display p)
    else none

end Store

/-! ### Creating the class -/

/-- A class that was allocated over a base that is finalized is created. -/
theorem Offered.create_ok (h : Offered descriptor s t c offered) (d : DomainRef)
    (finalized : ∀ b, base = some b → (t.classAt b).delegate?.isSome) :
    ∃ u, exec (create d c base offered) t = (.ok (), u) := by
  have host : ∀ f, (t.classAt c).constructor = some f → (t.template f).isSome := by
    intro f hf
    obtain ⟨_, _, o, template, _⟩ := h.parts.constructor f hf
    rw [template]
    rfl
  obtain ⟨u, run⟩ := exec_configure_ok h.wiring host finalized
  obtain ⟨w, configured⟩ := configured_of_configure h.lt run
  exact create_ok_of_configured h.lt h.constructorNoInit run configured fun _ => h.offered_writable

theorem Offered.keeps_created (h : Offered descriptor s t c offered)
    (run : exec (create d c base offered) t = (.ok (), u)) : s.Keeps u :=
  (h.confined_created run).keeps_of_beyond

theorem Class.kind_eq_root {k : Class} :
    k.kind = .root ↔ k.nativeId = some Builtins.objectClassId := by
  unfold Class.kind
  split_ifs <;> simp_all

/-- What is wrong with the base of a class that is created was wrong before. -/
theorem Offered.baseProblems_created (h : Offered descriptor s t c offered)
    (old : ∀ b, base = some b → b.index < s.classes.size)
    (run : exec (create d c base offered) t = (.ok (), u)) :
    u.baseProblems c = (s.misplaced? descriptor base).toList := by
  obtain ⟨w, created⟩ := h.created run
  have base_eq : (u.classAt c).base? = base := by
    rw [Class.base?, created.classAt]
    exact created.base
  have root : (u.classAt c).kind = .root ↔ descriptor.nativeId = some Builtins.objectClassId := by
    rw [Class.kind_eq_root, created.classAt, ← h.nativeId]
  unfold Store.baseProblems Store.misplaced?
  simp only [base_eq, ← root]
  cases base with
  | none => cases (u.classAt c).kind <;> rfl
  | some b =>
    have name : u.className b = s.className b :=
      congrArg Class.name ((h.keeps_created run).classAt b (old b rfl))
    have other : b ≠ c := by
      rintro rfl
      exact (old b rfl).not_ge h.le
    cases (u.classAt c).kind <;> simp [name, other]

/-- The delegation chain of the template of a class that is created comes to an end: it leaves the
class by the delegate of the base. -/
theorem Hierarchy.delegation_ends_created (hierarchy : Hierarchy s cs)
    (old : ∀ b, base = some b → b ∈ cs) (h : Offered descriptor s t c offered) {w : Wiring}
    {f : FunctionRef} (run : exec (create d c base offered) t = (.ok (), u))
    (created : Created t u c base f w) : Chain.Ends u.parent w.template := by
  have keeps := h.keeps_created run
  have kept := hierarchy.keeps keeps
  cases strategy : w.strategy with
  | takeover =>
    obtain ⟨_, own, parent⟩ := created.takeover strategy
    exact .last (parent.trans (h.hostTemplate_new own).2.2)
  | build =>
    obtain ⟨_, _, up, above, _⟩ := created.build strategy
    refine .step up ?_
    cases base with
    | none => exact .last above
    | some b =>
      obtain ⟨_, _, before⟩ := hierarchy.finished b (old b rfl)
      obtain ⟨_, w', finished⟩ := kept.finished b (old b rfl)
      have same : t.classAt b = u.classAt b :=
        (h.confined.classAt b before.inside (Set.notMem_empty b)).trans
          (keeps.classAt b before.inside).symm
      rw [Option.bind_some, same, finished.delegate?] at above
      exact .step above (kept.delegate_ends (.refl u) (old b rfl) finished)

/-- A class that is created in a hierarchy has no structural problem but with its base. -/
theorem Hierarchy.structuralProblems_created (hierarchy : Hierarchy s cs)
    (old : ∀ b, base = some b → b ∈ cs) (h : Offered descriptor s t c offered)
    (run : exec (create d c base offered) t = (.ok (), u)) :
    u.structuralProblems c = (s.misplaced? descriptor base).toList := by
  obtain ⟨w, created⟩ := h.created run
  have inside : ∀ b, base = some b → b.index < s.classes.size := fun b hb => by
    obtain ⟨_, _, finished⟩ := hierarchy.finished b (old b hb)
    exact finished.inside
  have bases : u.basesEnd c = true := by
    have base_eq : u.base c = base := by
      rw [Store.base, Class.base?, created.classAt]
      exact created.base
    rw [Store.basesEnd_iff]
    cases hb : base with
    | none => exact .last (base_eq.trans hb)
    | some b =>
      have kept := hierarchy.keeps (h.keeps_created run)
      exact .step (base_eq.trans hb) (kept.bases_end (old b hb))
  have templates : u.templateProblems c = [] := by
    have ends := u.delegationEnds_iff.mpr (hierarchy.delegation_ends_created old h run created)
    unfold Store.templateProblems Class.template?
    rw [created.classAt]
    simp [created.template, ends]
  rw [Store.structuralProblems, h.baseProblems_created inside run, bases, templates]
  simp

/-- A class that is created is refused if its base is misplaced and linking is strict. -/
theorem Hierarchy.checkClass_created (hierarchy : Hierarchy s cs) (lt : d.index < s.domains.size)
    (old : ∀ b, base = some b → b ∈ cs) (h : Offered descriptor s t c offered)
    (run : exec (create d c base offered) t = (.ok (), u)) :
    (∃ p, (s.domain d).options.verify = true ∧ (s.domain d).options.strict = true ∧
      s.misplaced? descriptor base = some p ∧
      exec (checkClass d c) u = (.error (.breach (.structural descriptor.display p)), u)) ∨
    ((s.domain d).options.verify = true → (s.domain d).options.strict = true →
      s.misplaced? descriptor base = none) ∧ ∃ v, exec (checkClass d c) u = (.ok (), v) := by
  have problems := hierarchy.structuralProblems_created old h run
  have confined := h.confined_created run
  have options : (u.domain d).options = (s.domain d).options := by rw [confined.settings d]
  have name : u.className c = descriptor.display := by
    obtain ⟨w, created⟩ := h.created run
    rw [Store.className, created.classAt]
    exact congrArg ClassDescriptor.display h.descriptor
  have checked := exec_checkClass c (confined.domains_eq ▸ lt)
  rw [options, problems, name] at checked
  rcases checked with ⟨off, ok⟩ | ⟨asked, strict, p, ps, found, failed⟩ | ⟨_, fits, v, _, ok⟩
  · exact .inr ⟨fun asked => absurd (off.symm.trans asked) Bool.false_ne_true, _, ok⟩
  · refine .inl ⟨p, asked, strict, ?_, failed⟩
    have first := congrArg List.head? found
    rwa [Option.head?_toList] at first
  · exact .inr ⟨fun _ strict => Option.toList_eq_nil_iff.mp (fits strict), _, ok⟩

/-- Linked classes are finalized. -/
theorem Hierarchy.finalized (hierarchy : Hierarchy s cs) (old : ∀ b, base = some b → b ∈ cs)
    (h : Confined .none s t) : ∀ b, base = some b → (t.classAt b).delegate?.isSome := by
  intro b hb
  obtain ⟨_, _, finished⟩ := hierarchy.finished b (old b hb)
  rw [h.classAt b finished.inside (Set.notMem_empty b), finished.delegate?]
  rfl

/-! ### Linking -/

/-- A descriptor with a host class that is not registered ends linking. -/
theorem exec_allocateFor_of_missing {id : String} (h : s.missingHost? descriptor = some id) :
    exec (allocateFor descriptor) s = (.error (.missingNativeClass id), s) := by
  obtain ⟨named, missing⟩ := Option.filter_eq_some_iff.mp h
  unfold allocateFor
  rw [named]
  simp only [exec_get_bind]
  rw [Option.isNone_iff_eq_none.mp missing]
  rfl

/-- Any other descriptor has a class allocated for it. -/
theorem allocateFor_ok (h : s.missingHost? descriptor = none) :
    ∃ c t, exec (allocateFor descriptor) s = (.ok c, t) ∧ Allocated descriptor s t c := by
  rcases exec_allocateFor descriptor s with ok | ⟨id, named, missing, _⟩
  · exact ok
  · rw [Store.missingHost?, named, Option.filter_some, missing] at h
    cases h

/-- Once its class is created, a link fails if the class is refused. -/
theorem exec_link_of_created {s₀ : Store} (valid : descriptor.validate = .ok ())
    (allocated : exec (allocateFor descriptor) s = (.ok c, s₀))
    (created : exec (create d c base ((prepareClass d descriptor base scope c).run s₀).1)
      ((prepareClass d descriptor base scope c).run s₀).2 = (.ok (), u)) :
    exec (link d descriptor base scope) s =
      match exec (checkClass d c) u with
      | (.error e, t) => (.error e, t)
      | (.ok _, t) => (.ok c, ((announceClass d c).run
          ((bindMembers d c base (scope.push (.class c))).run t).2).2) := by
  rw [exec_link, valid]
  simp only
  rw [exec_bind, allocated]
  simp only
  rw [exec_lift_bind, exec_bind, created]
  simp only
  rw [exec_bind]
  rcases exec (checkClass d c) u with ⟨e | _, t⟩
  · rfl
  · simp only [exec_lift_bind, exec_pure]

/-- A link comes to the fault that is expected, or it succeeds. -/
theorem Hierarchy.link_outcome (hierarchy : Hierarchy s cs) (lt : d.index < s.domains.size)
    (old : ∀ b, base = some b → b ∈ cs) (descriptor : ClassDescriptor) (scope : Scope) :
    (∃ e t, s.linkFault? d descriptor base = some e ∧
      exec (link d descriptor base scope) s = (.error e, t)) ∨
    s.linkFault? d descriptor base = none ∧
      ∃ c t, exec (link d descriptor base scope) s = (.ok c, t) := by
  unfold Store.linkFault?
  cases valid : descriptor.validate with
  | error e => exact .inl ⟨_, s, rfl, by rw [exec_link, valid]⟩
  | ok _ =>
    cases missing : s.missingHost? descriptor with
    | some id =>
      refine .inl ⟨_, s, rfl, ?_⟩
      rw [exec_link, valid]
      exact (exec_bind ..).trans (by rw [exec_allocateFor_of_missing missing])
    | none =>
      obtain ⟨c, s₀, run, allocated⟩ := allocateFor_ok missing
      have offered := offered_of_allocated (makesNew_synthesize d) base scope allocated
      obtain ⟨u, created⟩ := offered.create_ok d (hierarchy.finalized old offered.confined)
      have linked := exec_link_of_created valid run created
      rcases hierarchy.checkClass_created lt old offered created with
        ⟨p, asked, strict, misplaced, checked⟩ | ⟨fits, v, checked⟩ <;> rw [checked] at linked
      · exact .inl ⟨_, u, by simp [asked, strict, misplaced], linked⟩
      · refine .inr ⟨?_, c, _, linked⟩
        split_ifs with demanded
        · rw [fits demanded.1 demanded.2]
          rfl
        · rfl

/-- **What a link comes to.** In a store reached by linking, over none or a class that was linked, a
link fails with the fault that is expected and with no other, and otherwise it succeeds. A class
that is verified has at most the structural problem that its base is misplaced. -/
theorem outcome_of_linking (h : Linking s cs) (inside : d.index < s.domains.size)
    (old : ∀ b, base = some b → b ∈ cs) (descriptor : ClassDescriptor) (scope : Scope) :
    (∀ e, s.linkFault? d descriptor base = some e ↔
      ∃ t, exec (link d descriptor base scope) s = (.error e, t)) ∧
    (s.linkFault? d descriptor base = none → ∃ c t,
      exec (link d descriptor base scope) s = (.ok c, t) ∧
      ((s.domain d).options.verify = true → ∃ report, (t.classAt c).verification = some report ∧
        report.structural = (s.misplaced? descriptor base).toList)) := by
  have hierarchy := h.hierarchy
  have outcome := hierarchy.link_outcome inside old descriptor scope
  constructor
  · intro e
    rcases outcome with ⟨e', t, fault, failed⟩ | ⟨fault, c, t, ok⟩
    · rw [fault, failed]
      constructor
      · rintro ⟨⟩
        exact ⟨t, rfl⟩
      · rintro ⟨_, ⟨⟩⟩
        rfl
    · rw [fault, ok]
      constructor
      · rintro ⟨⟩
      · rintro ⟨_, ⟨⟩⟩
  · intro fault
    rcases outcome with ⟨_, _, fault', _⟩ | ⟨_, c, t, ok⟩
    · cases fault.symm.trans fault'
    refine ⟨c, t, ok, fun asked => ?_⟩
    obtain ⟨x, stages⟩ := linkStages_of_link inside ok
    refine ⟨x.created.reportOf c, ?_, ?_⟩
    · rw [stages.classAt inside]
      exact (stages.verified inside asked).1
    · exact hierarchy.structuralProblems_created old stages.begun.prepared.toOffered stages.creating

/-! ### A class without base -/

namespace Sample

/-- A store with one domain, which links strictly. -/
def strict : Store :=
  ((newDomain .strictly .inert).run { Store.initial with natives := .empty }).2

/-- Linking a class over none. -/
def linkOrphan : Run ClassRef := link ⟨0⟩ (.bare "Orphan") none (.global ⟨0⟩)

end Sample

/-- The class is refused by strict linking, and otherwise reported. -/
theorem outcome_of_linking_orphan :
    (∃ t, exec Sample.linkOrphan Sample.strict =
      (.error (.breach (.structural "Orphan" .noBase)), t)) ∧
    ∃ c t report, exec Sample.linkOrphan Sample.two = (.ok c, t) ∧
      (t.classAt c).verification = some report ∧ report.structural = [.noBase] := by
  constructor
  · have strict : Linking Sample.strict [] := .domain .strictly .inert (.start .empty)
    exact ((outcome_of_linking strict (by decide +kernel) (by simp) (.bare "Orphan")
      (.global ⟨0⟩)).1 _).mp (by decide +kernel)
  · have outcome := outcome_of_linking Sample.linking_two (d := ⟨0⟩) (by decide +kernel)
      (fun b (hb : none = some b) => by cases hb) (.bare "Orphan") (.global ⟨0⟩)
    obtain ⟨c, t, run, reported⟩ := outcome.2 (by decide +kernel)
    obtain ⟨report, verification, structural⟩ := reported (by decide +kernel)
    exact ⟨c, t, report, run, verification, structural⟩

end ClassLink
