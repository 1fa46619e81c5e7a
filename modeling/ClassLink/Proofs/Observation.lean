import ClassLink.Proofs.Blindness
import ClassLink.Proofs.Hierarchy

/-!
# Verifying only observes

The check of a class runs in the middle of its link, between the wiring and the members. It reads
the class, its holders and the chains they are on, and writes a report, diagnostics and the log.
Since no stage of a link looks at these (`blindRun_linkUnchecked`, `inStep_finishLink`), two links
that differ in the options of their domain stay in step: up to the check the stores differ in the
options alone, and from the check on also in what it writes. For strict linking this says more,
because a check that it passes is the check that is made without it.
-/

namespace ClassLink

variable {v : Veil}

/-! ### Checking -/

section
variable {s t : Store} (h : Alike v s t) (c : ClassRef)
include h

theorem Alike.structuralProblems : t.structuralProblems c = s.structuralProblems c := by
  unfold Store.structuralProblems Store.baseProblems Store.templateProblems Store.basesEnd
    Store.delegationEnds
  rw [h.classAt c, h.className, h.base, h.classes_eq, h.template, h.parent, h.objects]
  rfl

theorem Alike.inheritedHolders : t.inheritedHolders c = s.inheritedHolders c := by
  unfold Store.inheritedHolders
  rw [h.classAt c]
  rfl

theorem Alike.missingNatives (traits : List Trait) (holders : List ObjectRef) :
    t.missingNatives traits holders = s.missingNatives traits holders := by
  unfold Store.missingNatives Trait.isImplemented Trait.isImplementedBy
  rw [h.properties]

theorem Alike.missingStatics : t.missingStatics c = s.missingStatics c := by
  unfold Store.missingStatics
  rw [h.missingNatives, h.classAt c]

theorem Alike.missingInstances : t.missingInstances c = s.missingInstances c := by
  unfold Store.missingInstances
  rw [h.missingNatives, h.classAt c]

/-- The findings in the one store are those in the other. -/
theorem Alike.sayFindings (d : DomainRef) : sayFindings d c t = sayFindings d c s := by
  unfold ClassLink.sayFindings
  rw [h.structuralProblems, h.inheritedHolders, h.missingStatics, h.missingInstances, h.classAt c]
  rfl

end

/-- Saying findings that are given. -/
theorem blindRun_sayFindings (d : DomainRef) (c : ClassRef) (s : Store) :
    BlindRun v (sayFindings d c s) := by
  have missing : ∀ set m, BlindRun v (reportMissing d (s.classAt c).name set m : Run _) :=
    fun set m => .lift ((Blind.emit d _).bind fun _ => .pure _)
  refine (BlindRun.forIn fun p => .emit d _).bind fun _ => ?_
  refine (BlindRun.forIn fun p => .emit d _).bind fun _ => ?_
  refine (BlindRun.mapM fun m => missing .static m).bind fun statics => ?_
  refine (BlindRun.mapM fun m => missing .instance m).bind fun instances => ?_
  exact (BlindRun.lift (.log _)).bind fun _ => .pure _

/-- A check that strict linking passes is made without strict linking in the same way. -/
theorem inStep_checkClass_of_ok {s t u : Store} (h : Alike v s t) {d : DomainRef} {c : ClassRef}
    (asked : (t.domain d).options.verify = (s.domain d).options.verify)
    (lenient : (t.domain d).options.strict = false) (lt : d.index < s.domains.size)
    (ok : exec (checkClass d c) s = (.ok (), u)) :
    InStep v (exec (checkClass d c) s) (exec (checkClass d c) t) := by
  have checked := exec_checkClass c lt
  unfold checkClass
  rw [exec_get_bind, exec_get_bind, asked]
  rcases checked with ⟨off, _⟩ | ⟨_, _, p, ps, _, failed⟩ | ⟨on, fits, _⟩
  · rw [off]
    exact ⟨rfl, h⟩
  · cases failed.symm.trans ok
  · rw [on]
    have verified : InStep v (exec (verifyClass d c) s) (exec (verifyClass d c) t) := by
      rw [exec_verifyClass_of_fits fits,
        exec_verifyClass_of_fits fun strict => absurd (lenient.symm.trans strict) Bool.false_ne_true,
        h.sayFindings]
      exact blindRun_sayFindings d c s h
    exact verified.exec_bind fun report _ _ h => ⟨rfl, h.modifyClass c fun _ _ => rfl⟩

/-- Diagnostics behind the veil may be said in one store only. -/
theorem Alike.emits_right {s t u : Store} (h : Alike v s t) {d : DomainRef} {xs : List Diagnostic}
    (said : Emits d xs t u) (hidden : d ∈ v.diagnostics) (log : v.log) : Alike v s u := by
  have classes : u.classAt = t.classAt := by
    funext c
    rw [Store.classAt, said.classes]
    rfl
  have domains : ∀ x, u.domain x = { t.domain x with diagnostics := (u.domain x).diagnostics } := by
    intro x
    by_cases same : x = d
    · subst same
      conv_lhs => rw [said.confined.settings x, said.stats]
    · rw [said.confined.domain x same]
  refine ⟨said.objects.trans h.objects, said.functions.trans h.functions,
    said.confined.natives.trans h.natives, said.classes ▸ h.classes_eq, classes ▸ h.classAt,
    classes ▸ h.report, said.confined.domains_eq.trans h.domains_eq, fun x => ?_, fun x => ?_,
    fun x hx => ?_, fun kept => absurd log kept⟩
  · conv_lhs => rw [domains x, h.domain x]
    rw [domains x]
  · rw [domains x]
    exact h.options x
  · have other : x ∉ ({d} : Set DomainRef) := by
      rintro rfl
      exact hx hidden
    rw [said.confined.domain x other]
    exact h.diagnostics x hx

theorem exec_checkClass_of_unverified {s : Store} {d : DomainRef}
    (off : (s.domain d).options.verify = false) (c : ClassRef) :
    exec (checkClass d c) s = (.ok (), s) := by
  unfold checkClass
  rw [exec_get_bind, off]
  rfl

/-- What verifying says and reports in one store only is behind the veil. -/
theorem inStep_checkClass_of_unverified {s t : Store} (h : Alike v s t) {d : DomainRef}
    {c : ClassRef} (off : (s.domain d).options.verify = false)
    (lenient : (t.domain d).options.strict = false) (lt : d.index < s.domains.size)
    (report : c ∈ v.reports) (diagnostics : d ∈ v.diagnostics) (log : v.log) :
    InStep v (exec (checkClass d c) s) (exec (checkClass d c) t) := by
  rw [exec_checkClass_of_unverified off]
  rcases exec_checkClass c (h.domains_eq ▸ lt) with
    ⟨_, run⟩ | ⟨_, strict, _⟩ | ⟨_, _, u, said, run⟩
  · rw [run]
    exact ⟨rfl, h⟩
  · exact absurd (lenient.symm.trans strict) Bool.false_ne_true
  · rw [run]
    exact ⟨rfl, (h.emits_right said diagnostics log).report_right report _⟩

/-! ### Linking -/

/-- All of a link before the class is checked. -/
def linkUnchecked (d : DomainRef) (descriptor : ClassDescriptor) (base : Option ClassRef)
    (scope : Scope) : Run ClassRef := do
  if let .error e := descriptor.validate then throw (.descriptor e)
  let c ← allocateFor descriptor
  let offered ← prepareClass d descriptor base scope c
  create d c base offered
  return c

/-- The rest of a link. -/
def finishLink (d : DomainRef) (base : Option ClassRef) (scope : Scope) (c : ClassRef) :
    Run ClassRef := do
  checkClass d c
  bindMembers d c base (scope.push (.class c))
  announceClass d c
  return c

section
variable (d : DomainRef) (descriptor : ClassDescriptor) (base : Option ClassRef) (scope : Scope)

theorem exec_link_eq_finishLink (s : Store) :
    exec (link d descriptor base scope) s =
      exec (linkUnchecked d descriptor base scope >>= finishLink d base scope) s := by
  rw [exec_link]
  unfold linkUnchecked finishLink
  cases descriptor.validate with
  | error e => rfl
  | ok _ =>
    simp only [bind_assoc, pure_bind]

theorem blindRun_linkUnchecked : BlindRun v (linkUnchecked d descriptor base scope) := by
  unfold linkUnchecked
  have created : BlindRun v (do
      let c ← allocateFor descriptor
      let offered ← (prepareClass d descriptor base scope c : Run FunctionRef)
      create d c base offered
      return c) :=
    (blindRun_allocateFor descriptor).bind fun c =>
      (BlindRun.lift (blind_prepareClass ..)).bind fun f =>
        (blindRun_create d c base f).bind fun _ => .pure c
  cases descriptor.validate with
  | error e => exact (BlindRun.throw _).bind fun _ => created
  | ok _ => exact created

theorem domains_of_linkUnchecked {s t : Store} {c : ClassRef}
    (ok : exec (linkUnchecked d descriptor base scope) s = (.ok c, t)) :
    t.domains.size = s.domains.size := by
  unfold linkUnchecked at ok
  cases valid : descriptor.validate with
  | error e => rw [valid] at ok; cases ok
  | ok _ =>
    rw [valid] at ok
    obtain ⟨c', s₁, allocated, rest⟩ := exec_bind_ok.mp ok
    rw [exec_lift_bind] at rest
    obtain ⟨_, s₂, created, rest⟩ := exec_bind_ok.mp rest
    rw [exec_pure] at rest
    cases rest
    have begun : Begun d descriptor base scope s _ _ _ := ⟨s₁, allocated, rfl⟩
    exact (begun.prepared.confined_created created).domains_eq

/-- A link is in step if the check is. -/
theorem inStep_finishLink {s t : Store} {c : ClassRef}
    (checked : InStep v (exec (checkClass d c) s) (exec (checkClass d c) t))
    (traced : ¬v.log → ∀ o o', v.options d o o' → o'.trace = o.trace) :
    InStep v (exec (finishLink d base scope c) s) (exec (finishLink d base scope c) t) :=
  checked.exec_bind fun _ _ _ h => ((BlindRun.lift (blind_bindMembers ..)).bind fun _ =>
    (BlindRun.lift (blind_announceClass c traced)).bind fun _ => .pure c) h

/-- Once a class is checked, its link succeeds. -/
theorem exec_finishLink_of_checked {s u : Store} {c : ClassRef}
    (checked : exec (checkClass d c) s = (.ok (), u)) :
    ∃ t, exec (finishLink d base scope c) s = (.ok c, t) := by
  unfold finishLink
  rw [exec_bind, checked]
  exact ⟨_, rfl⟩

end

/-! ### Other options -/

/-- The store with other options of a domain. -/
def Store.withOptions (s : Store) (d : DomainRef) (o : Options) : Store :=
  s.modifyDomain d fun x => { x with options := o }

theorem Store.size_withOptions (s : Store) (d : DomainRef) (o : Options) :
    (s.withOptions d o).domains.size = s.domains.size := s.size_modifyDomain ..

theorem Store.domain_withOptions (s : Store) (d x : DomainRef) (o : Options) :
    (s.withOptions d o).domain x =
      if d = x ∧ x.index < s.domains.size then { s.domain x with options := o } else s.domain x :=
  Store.domain_modifyDomain ..

/-- The store with the report of a class, the diagnostics of a domain and the log of another one. -/
def Store.withFindingsOf (s t : Store) (d : DomainRef) (c : ClassRef) : Store :=
  { (s.modifyClass c fun k => { k with verification := (t.classAt c).verification }).modifyDomain d
      fun x => { x with diagnostics := (t.domain d).diagnostics } with
    log := t.log }

namespace Veil

/-- One domain has these options in the two stores. -/
def ofOptions (d : DomainRef) (o o' : Options) : Veil where
  reports := ∅
  options x p q := (x = d → p = o ∧ q = o') ∧ (x ≠ d → q = p)
  diagnostics := ∅
  log := False

/-- Besides, what verifying a class writes is hidden. -/
def ofVerifying (d : DomainRef) (c : ClassRef) (o o' : Options) : Veil :=
  { ofOptions d o o' with reports := {c}, diagnostics := {d}, log := True }

end Veil

/-- A store is known by what is read from its places. -/
theorem Store.eq_of_reads {s t : Store} (objects : t.objects = s.objects)
    (functions : t.functions = s.functions) (natives : t.natives = s.natives) (log : t.log = s.log)
    (classes_eq : t.classes.size = s.classes.size)
    (classAt : ∀ c : ClassRef, c.index < s.classes.size → t.classAt c = s.classAt c)
    (domains_eq : t.domains.size = s.domains.size)
    (domain : ∀ d : DomainRef, d.index < s.domains.size → t.domain d = s.domain d) : t = s := by
  have classes : t.classes = s.classes := by
    refine Array.ext classes_eq fun i hi hi' => ?_
    simpa [Store.classAt, hi, hi'] using classAt ⟨i⟩ hi'
  have domains : t.domains = s.domains := by
    refine Array.ext domains_eq fun i hi hi' => ?_
    simpa [Store.domain, hi, hi'] using domain ⟨i⟩ hi'
  obtain ⟨_, _, _, _, _, _⟩ := s
  obtain ⟨_, _, _, _, _, _⟩ := t
  cases objects
  cases functions
  cases natives
  cases log
  cases classes
  cases domains
  rfl

namespace Alike

variable {d : DomainRef} {c : ClassRef} {o o' : Options} {s t : Store}

theorem withOptions (o o' : Options) (lt : d.index < s.domains.size) :
    Alike (.ofOptions d o o') (s.withOptions d o) (s.withOptions d o') := by
  refine ⟨rfl, rfl, rfl, rfl, fun _ => rfl, fun _ _ => rfl, ?_, fun x => ?_,
    fun x => ⟨?_, fun other => ?_⟩, fun x _ => ?_, fun _ => rfl⟩
  · rw [Store.size_withOptions, Store.size_withOptions]
  · rw [Store.domain_withOptions, Store.domain_withOptions]
    split <;> rfl
  · rintro rfl
    rw [Store.domain_withOptions, Store.domain_withOptions, if_pos ⟨rfl, lt⟩, if_pos ⟨rfl, lt⟩]
    exact ⟨rfl, rfl⟩
  · rw [Store.domain_withOptions, Store.domain_withOptions, if_neg fun same => other same.1.symm,
      if_neg fun same => other same.1.symm]
  · rw [Store.domain_withOptions, Store.domain_withOptions]
    split <;> rfl

theorem eq_withOptions (h : Alike (.ofOptions d o o') s t) : t = s.withOptions d o' := by
  have size := s.size_withOptions d o'
  refine Store.eq_of_reads h.objects h.functions h.natives (h.log not_false) h.classes_eq
    (fun c _ => ?_) (h.domains_eq.trans size.symm) fun x inside => ?_
  · have same := h.classAt c
    rwa [h.report c (Set.notMem_empty c)] at same
  · rw [Store.domain_withOptions]
    by_cases same : d = x
    · rw [if_pos ⟨same, size ▸ inside⟩, h.domain x, h.diagnostics x (Set.notMem_empty x),
        ((h.options x).1 same.symm).2]
    · rw [if_neg fun both => same both.1, h.domain x, h.diagnostics x (Set.notMem_empty x),
        (h.options x).2 fun e => same e.symm]

theorem eq_withFindingsOf (h : Alike (.ofVerifying d c o o') s t) :
    t = (s.withOptions d o').withFindingsOf t d c := by
  have classes : ((s.withOptions d o').withFindingsOf t d c).classes.size = s.classes.size :=
    Store.size_modifyClass ..
  have domains : ((s.withOptions d o').withFindingsOf t d c).domains.size = s.domains.size :=
    (Store.size_modifyDomain ..).trans (s.size_withOptions d o')
  refine Store.eq_of_reads h.objects h.functions h.natives rfl (h.classes_eq.trans classes.symm)
    (fun k inside => ?_) (h.domains_eq.trans domains.symm) fun x inside => ?_
  · refine Eq.trans ?_ (Store.classAt_modifyClass ..).symm
    by_cases same : c = k
    · subst same
      rw [if_pos ⟨rfl, classes ▸ inside⟩]
      exact h.classAt c
    · have report := h.report k fun e => same e.symm
      rw [if_neg fun both => same both.1, h.classAt k, report]
      rfl
  · rw [domains] at inside
    refine Eq.trans ?_ (Store.domain_modifyDomain ..).symm
    have written : ((s.withOptions d o').modifyClass c fun k =>
        { k with verification := (t.classAt c).verification }).domain x =
          if d = x ∧ x.index < s.domains.size then { s.domain x with options := o' }
          else s.domain x := s.domain_withOptions d x o'
    by_cases same : d = x
    · subst same
      rw [if_pos ⟨rfl, inside⟩] at written
      rw [if_pos ⟨rfl, (s.size_withOptions d o').symm ▸ inside⟩, written]
      conv_lhs => rw [h.domain d, ((h.options d).1 rfl).2]
    · have diagnostics := h.diagnostics x fun e => same e.symm
      rw [if_neg fun both => same both.1] at written ⊢
      rw [written, h.domain x, diagnostics, (h.options x).2 fun e => same e.symm]

/-- In the sight of the verifier more may differ. -/
theorem ofVerifying (h : Alike (.ofOptions d o o') s t) (c : ClassRef) :
    Alike (.ofVerifying d c o o') s t :=
  { h with
    report := fun k _ => h.report k (Set.notMem_empty k)
    diagnostics := fun x _ => h.diagnostics x (Set.notMem_empty x)
    log := fun kept => absurd trivial kept }

end Alike

section
variable {d : DomainRef} {s : Store} (descriptor : ClassDescriptor) (base : Option ClassRef)
  (scope : Scope)

theorem observes_of_unverified (lt : d.index < s.domains.size) {o o' : Options}
    (off : o.verify = false) (lenient : o'.strict = false) :
    (∃ e t t', exec (link d descriptor base scope) (s.withOptions d o) = (.error e, t) ∧
      exec (link d descriptor base scope) (s.withOptions d o') = (.error e, t')) ∨
    ∃ c t t', exec (link d descriptor base scope) (s.withOptions d o) = (.ok c, t) ∧
      exec (link d descriptor base scope) (s.withOptions d o') = (.ok c, t') ∧
      t' = (t.withOptions d o').withFindingsOf t' d c := by
  have first := blindRun_linkUnchecked d descriptor base scope (Alike.withOptions o o' lt)
  rw [exec_link_eq_finishLink, exec_link_eq_finishLink, exec_bind, exec_bind]
  rcases unchecked : exec (linkUnchecked d descriptor base scope) (s.withOptions d o) with
    ⟨e | c, u⟩ <;> obtain ⟨u', unchecked', alike⟩ := first.exists_alike unchecked <;> rw [unchecked']
  · exact .inl ⟨e, u, u', rfl, rfl⟩
  · obtain ⟨options, options'⟩ := (alike.options d).1 rfl
    have inside : d.index < u.domains.size := by
      rwa [domains_of_linkUnchecked _ _ _ _ unchecked, Store.size_withOptions]
    have off' : (u.domain d).options.verify = false := options ▸ off
    have checked := inStep_checkClass_of_unverified (alike.ofVerifying c) off' (options' ▸ lenient)
      inside rfl rfl trivial
    have step := inStep_finishLink d base scope checked fun kept => absurd trivial kept
    obtain ⟨t, run⟩ :=
      exec_finishLink_of_checked d base scope (exec_checkClass_of_unverified off' c)
    obtain ⟨t', run', same⟩ := step.exists_alike run
    exact .inr ⟨c, t, t', run, run', same.eq_withFindingsOf⟩

theorem lenient_of_strict (lt : d.index < s.domains.size) {o : Options} {c : ClassRef} {t : Store}
    (ok : exec (link d descriptor base scope) (s.withOptions d { o with strict := true }) =
      (.ok c, t)) :
    exec (link d descriptor base scope) (s.withOptions d { o with strict := false }) =
      (.ok c, t.withOptions d { o with strict := false }) := by
  rw [exec_link_eq_finishLink] at ok
  obtain ⟨c', u, unchecked, finished⟩ := exec_bind_ok.mp ok
  have first := blindRun_linkUnchecked d descriptor base scope
    (Alike.withOptions { o with strict := true } { o with strict := false } lt)
  obtain ⟨u', unchecked', alike⟩ := first.exists_alike unchecked
  obtain ⟨options, options'⟩ := (alike.options d).1 rfl
  have inside : d.index < u.domains.size := by
    rwa [domains_of_linkUnchecked _ _ _ _ unchecked, Store.size_withOptions]
  obtain ⟨_, _, checked, _⟩ := exec_bind_ok.mp finished
  have step := inStep_finishLink d base scope
    (inStep_checkClass_of_ok alike (by rw [options, options']) (by rw [options']) inside checked)
    fun _ p q both => by
      obtain ⟨rfl, rfl⟩ := both.1 rfl
      rfl
  obtain ⟨t', run, same⟩ := step.exists_alike finished
  rw [exec_link_eq_finishLink, exec_bind, unchecked', ← same.eq_withOptions]
  exact run

/-- **Verifying only observes.** Of two links that differ in the options of their domain, the first
without verifying and the second without strictness, either both fail with the same fault, or
both link the same class and leave the same store but for the report of the class, the options and
the diagnostics of the domain, and the log. And a strict link that succeeds is a link that is not
strict. -/
theorem verifying_observes (lt : d.index < s.domains.size) :
    (∀ o o' : Options, o.verify = false → o'.strict = false →
      (∃ e t t', exec (link d descriptor base scope) (s.withOptions d o) = (.error e, t) ∧
        exec (link d descriptor base scope) (s.withOptions d o') = (.error e, t')) ∨
      ∃ c t t', exec (link d descriptor base scope) (s.withOptions d o) = (.ok c, t) ∧
        exec (link d descriptor base scope) (s.withOptions d o') = (.ok c, t') ∧
        t' = (t.withOptions d o').withFindingsOf t' d c) ∧
    ∀ (o : Options) c t,
      exec (link d descriptor base scope) (s.withOptions d { o with strict := true }) =
        (.ok c, t) →
      exec (link d descriptor base scope) (s.withOptions d { o with strict := false }) =
        (.ok c, t.withOptions d { o with strict := false }) :=
  ⟨fun _ _ off lenient => observes_of_unverified descriptor base scope lt off lenient,
    fun _ _ _ ok => lenient_of_strict descriptor base scope lt ok⟩

end

/-- A class over another one is linked without and with verifying, and strictly. -/
theorem verifying_observes_derived :
    (∃ t t', exec Sample.linkDerived (Sample.one.withOptions ⟨0⟩ .unverified) = (.ok ⟨1⟩, t) ∧
      exec Sample.linkDerived (Sample.one.withOptions ⟨0⟩ .standard) = (.ok ⟨1⟩, t') ∧
      t' = (t.withOptions ⟨0⟩ .standard).withFindingsOf t' ⟨0⟩ ⟨1⟩) ∧
    ∃ t, exec Sample.linkDerived (Sample.one.withOptions ⟨0⟩ .strictly) = (.ok ⟨1⟩, t) ∧
      exec Sample.linkDerived (Sample.one.withOptions ⟨0⟩ .standard) =
        (.ok ⟨1⟩, t.withOptions ⟨0⟩ .standard) := by
  obtain ⟨observes, lenient⟩ := verifying_observes (d := ⟨0⟩) (s := Sample.one) (.bare "Derived")
    (some ⟨0⟩) (.global ⟨0⟩) (by decide +kernel)
  have unverified := exec_eq_of_toOption (x := Sample.linkDerived) (a := ⟨1⟩)
    (s := Sample.one.withOptions ⟨0⟩ .unverified) (by decide +kernel)
  have strict := exec_eq_of_toOption (x := Sample.linkDerived) (a := ⟨1⟩)
    (s := Sample.one.withOptions ⟨0⟩ .strictly) (by decide +kernel)
  refine ⟨?_, _, strict, lenient .standard ⟨1⟩ _ strict⟩
  rcases observes .unverified .standard rfl rfl with
    ⟨e, t, t', failed, _⟩ | ⟨c, t, t', ok, ok', same⟩
  · cases unverified.symm.trans failed
  · obtain rfl := Except.ok.inj (Prod.mk.inj (unverified.symm.trans ok)).1
    exact ⟨t, t', ok, ok', same⟩

end ClassLink
