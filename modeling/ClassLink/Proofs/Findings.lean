import ClassLink.Proofs.Chains
import ClassLink.Proofs.Observation
import ClassLink.Proofs.Stubs

/-!
# Reports and diagnostics

Verifying a class records each finding in its report and says it to the domain. The report lists
findings by kind, and a diagnostic is one finding, so the two are compared item by item: a report is
read off as a list of items (`Report.items`), in the order in which they are said, and a diagnostic
says one item (`Diagnostic.item?`).

The structural problems are those that a class has (`Store.Suffers`): said without walking along a
chain, by whether the chain comes to an end.
-/

namespace ClassLink

/-! ### Structural problems -/

/-- What may be wrong with a class, at any stage of its construction. -/
inductive Store.Suffers (s : Store) (c : ClassRef) : StructuralProblem → Prop where
  /-- The root derives from a class. -/
  | rootHasBase {b : ClassRef} : (s.classAt c).kind = .root → s.base c = some b →
    Suffers s c (.rootHasBase (s.className b))
  /-- Another class derives from none. -/
  | noBase : (s.classAt c).kind ≠ .root → s.base c = none → Suffers s c .noBase
  /-- Another class derives from itself. -/
  | ownBase : (s.classAt c).kind ≠ .root → s.base c = some c → Suffers s c .ownBase
  /-- The chain of the classes above the class does not come to an end. -/
  | cyclicBases : ¬ Chain.Ends s.base c → Suffers s c .cyclicBases
  /-- The class has no constructor. -/
  | noConstructor : (s.classAt c).constructor = none → Suffers s c .noConstructor
  /-- The class has a constructor and no template. -/
  | noTemplate {f : FunctionRef} : (s.classAt c).constructor = some f →
    (s.classAt c).template? = none → Suffers s c .noTemplate
  /-- The constructor has another template, or none. -/
  | templateDisagrees {f : FunctionRef} {o : ObjectRef} : (s.classAt c).constructor = some f →
    (s.classAt c).template? = some o → s.template f ≠ some o → Suffers s c .templateDisagrees
  /-- The delegation chain of the template does not come to an end. -/
  | cyclicDelegation {f : FunctionRef} {o : ObjectRef} : (s.classAt c).constructor = some f →
    (s.classAt c).template? = some o → ¬ Chain.Ends s.parent o → Suffers s c .cyclicDelegation

namespace Store

variable {s : Store} {c : ClassRef} {p : StructuralProblem}

theorem mem_baseProblems_iff : p ∈ s.baseProblems c ↔
    ((s.classAt c).kind = .root ∧ ∃ b, s.base c = some b ∧ p = .rootHasBase (s.className b)) ∨
      (s.classAt c).kind ≠ .root ∧
        (s.base c = none ∧ p = .noBase ∨ s.base c = some c ∧ p = .ownBase) := by
  simp only [baseProblems, base]
  cases kind : (s.classAt c).kind <;> cases derives : (s.classAt c).base? with
  | none => simp
  | some b => by_cases same : b = c <;> simp [same]

theorem mem_templateProblems_iff : p ∈ s.templateProblems c ↔
    ((s.classAt c).constructor = none ∧ p = .noConstructor) ∨
      ∃ f, (s.classAt c).constructor = some f ∧
        ((s.classAt c).template? = none ∧ p = .noTemplate ∨
          ∃ o, (s.classAt c).template? = some o ∧
            (s.template f ≠ some o ∧ p = .templateDisagrees ∨
              ¬ Chain.Ends s.parent o ∧ p = .cyclicDelegation)) := by
  simp only [templateProblems, ← delegationEnds_iff]
  cases built : (s.classAt c).constructor with
  | none => simp
  | some f =>
    cases wired : (s.classAt c).template? with
    | none => simp
    | some o =>
      by_cases agrees : s.template f = some o <;> cases ends : s.delegationEnds o <;>
        simp [agrees, ends]

/-- The problems that are found are those that the class has. -/
theorem mem_structuralProblems_iff : p ∈ s.structuralProblems c ↔ s.Suffers c p := by
  have bases : p ∈ (if s.basesEnd c then [] else [StructuralProblem.cyclicBases]) ↔
      ¬ Chain.Ends s.base c ∧ p = .cyclicBases := by
    rw [← basesEnd_iff]
    split <;> simp [*]
  rw [structuralProblems, List.mem_append, List.mem_append, bases, mem_baseProblems_iff,
    mem_templateProblems_iff]
  constructor
  · rintro (((⟨root, b, derives, rfl⟩ | ⟨other, ⟨none, rfl⟩ | ⟨self, rfl⟩⟩) | ⟨cyclic, rfl⟩) |
      ⟨none, rfl⟩ | ⟨f, built, ⟨none, rfl⟩ | ⟨o, wired, ⟨differs, rfl⟩ | ⟨cyclic, rfl⟩⟩⟩)
    · exact .rootHasBase root derives
    · exact .noBase other none
    · exact .ownBase other self
    · exact .cyclicBases cyclic
    · exact .noConstructor none
    · exact .noTemplate built none
    · exact .templateDisagrees built wired differs
    · exact .cyclicDelegation built wired cyclic
  · intro h
    cases h with
    | rootHasBase root derives => exact .inl (.inl (.inl ⟨root, _, derives, rfl⟩))
    | noBase other none => exact .inl (.inl (.inr ⟨other, .inl ⟨none, rfl⟩⟩))
    | ownBase other self => exact .inl (.inl (.inr ⟨other, .inr ⟨self, rfl⟩⟩))
    | cyclicBases cyclic => exact .inl (.inr ⟨cyclic, rfl⟩)
    | noConstructor none => exact .inr (.inl ⟨none, rfl⟩)
    | noTemplate built none => exact .inr (.inr ⟨_, built, .inl ⟨none, rfl⟩⟩)
    | templateDisagrees built wired differs =>
      exact .inr (.inr ⟨_, built, .inr ⟨_, wired, .inl ⟨differs, rfl⟩⟩⟩)
    | cyclicDelegation built wired cyclic =>
      exact .inr (.inr ⟨_, built, .inr ⟨_, wired, .inr ⟨cyclic, rfl⟩⟩⟩)

end Store

/-! ### Items -/

/-- A finding, as a report lists it. -/
inductive Report.Item where
  | structural (problem : StructuralProblem)
  | inheritedHolders (set : TraitSet)
  | missingNative (set : TraitSet) (traitName : String)
deriving DecidableEq, Repr

/-- The findings of a report in the order in which they are said. -/
def Report.items (r : Report) : List Report.Item :=
  r.structural.map .structural ++ (r.inheritedHolders.map .inheritedHolders ++
    r.missingNatives.map fun x => .missingNative x.1 x.2)

theorem Report.length_items (r : Report) : r.items.length = r.size := by
  simp only [items, size, List.length_append, List.length_map]
  omega

/-- What a diagnostic says, as a report lists it; no report lists constructors that are ignored. -/
def Diagnostic.item? (x : Diagnostic) : Option Report.Item :=
  match x.finding with
  | .structural problem => some (.structural problem)
  | .inheritedHolders set => some (.inheritedHolders set)
  | .missingNative traitName _ set => some (.missingNative set traitName)
  | .ignoredConstructor => none

/-- Diagnostics of a class say the findings of a report, each once and in the order of the report.
They name the class, and structural problems alone are errors. -/
structure Report.IsSaid (r : Report) (className : String) (said : List Diagnostic) : Prop where
  items : said.map (·.item?) = r.items.map some
  className : ∀ x ∈ said, x.className = className
  severity : ∀ x ∈ said, x.severity = .error ↔ ∃ p, x.finding = .structural p

theorem Report.IsSaid.length {r : Report} {className : String} {said : List Diagnostic}
    (h : r.IsSaid className said) : said.length = r.size := by
  have same := congrArg List.length h.items
  rwa [List.length_map, List.length_map, Report.length_items] at same

namespace Store

variable (s : Store) (c : ClassRef)

/-- What is said of a class is what is reported. -/
theorem isSaid_findingsOf : (s.reportOf c).IsSaid (s.className c) (s.findingsOf c) := by
  refine ⟨?_, fun x hx => ?_, fun x hx => ?_⟩
  · simp [findingsOf, reportOf, Report.items, Diagnostic.item?, Diagnostic.error,
      Diagnostic.warning, Function.comp_def]
  all_goals
    simp only [findingsOf, List.mem_append, List.mem_map] at hx
    rcases hx with ⟨_, _, rfl⟩ | ⟨_, _, rfl⟩ | ⟨_, _, rfl⟩ | ⟨_, _, rfl⟩ <;>
      simp [Diagnostic.error, Diagnostic.warning]

/-- The class-level holders come before those of the instances. -/
theorem inheritedHolders_sublist : (s.inheritedHolders c).Sublist [.static, .instance] := by
  unfold inheritedHolders
  dsimp only
  split_ifs <;> simp

/-- The store with more diagnostics of a domain. -/
def saying (d : DomainRef) (xs : List Diagnostic) : Store :=
  s.modifyDomain d fun y => { y with diagnostics := y.diagnostics ++ xs }

end Store

/-- What says diagnostics adds them to those of the domain, and writes nothing else but the log. -/
theorem Emits.eq_saying {d : DomainRef} {xs : List Diagnostic} {s t : Store} (h : Emits d xs s t) :
    t = { s.saying d xs with log := t.log } := by
  have size : (s.saying d xs).domains.size = s.domains.size := s.size_modifyDomain ..
  refine Store.eq_of_reads h.objects h.functions h.confined.natives rfl
    (congrArg Array.size h.classes) (fun c _ => ?_) (h.confined.domains_eq.trans size.symm)
    fun x inside => ?_
  · rw [Store.classAt, h.classes]
    rfl
  · refine Eq.trans ?_ (s.domain_modifyDomain d x _).symm
    by_cases same : d = x
    · subst same
      rw [if_pos ⟨rfl, size ▸ inside⟩, h.confined.settings d, h.diagnostics, h.stats]
    · rw [if_neg fun both => same both.1]
      exact h.confined.domain x fun other => same (Set.mem_singleton_iff.mp other).symm

/-- **Verifying.** Strict linking fails exactly if the class has a structural problem, with the
first one that is found, and writes nothing. Otherwise verifying succeeds, whether linking is strict
or not: the diagnostics of the domain are added that say the report, and nothing else is written but
the log. -/
theorem verifyClass_reports (c : ClassRef) {d : DomainRef} {s : Store}
    (lt : d.index < s.domains.size) :
    let strict := (s.domain d).options.strict
    let report := s.reportOf c
    let said := s.findingsOf c
    (∀ e t, exec (verifyClass d c) s = (.error e, t) ↔ strict = true ∧ t = s ∧
      ∃ p ps, report.structural = p :: ps ∧ e = .breach (.structural (s.className c) p)) ∧
    ((strict = true → ∀ p, ¬ s.Suffers c p) → ∃ log,
      exec (verifyClass d c) s = (.ok report, { s.saying d said with log := log })) ∧
    (∀ p, p ∈ report.structural ↔ s.Suffers c p) ∧
    report.IsSaid (s.className c) said ∧ said.length = report.size ∧
    report.inheritedHolders.Sublist [.static, .instance] ∧
    ∀ o, (s.withOptions d o).reportOf c = report ∧ (s.withOptions d o).findingsOf c = said := by
  intro strict report said
  have suffers : ∀ p, p ∈ report.structural ↔ s.Suffers c p := fun p =>
    Store.mem_structuralProblems_iff
  have outcome := exec_verifyClass d c lt
  refine ⟨fun e t => ?_, fun fits => ?_, suffers, s.isSaid_findingsOf c,
    (s.isSaid_findingsOf c).length, s.inheritedHolders_sublist c, fun o => ⟨rfl, rfl⟩⟩
  · rcases outcome with ⟨asked, p, ps, problems, run⟩ | ⟨fits, u, run, -⟩
    · rw [run]
      constructor
      · rintro ⟨⟩
        exact ⟨asked, rfl, p, ps, problems, rfl⟩
      · rintro ⟨-, rfl, q, qs, problems', rfl⟩
        cases problems.symm.trans problems'
        rfl
    · rw [run]
      refine iff_of_false (fun h => by cases h) ?_
      rintro ⟨asked, -, p, ps, problems, -⟩
      cases (fits asked).symm.trans problems
  · rcases outcome with ⟨asked, p, ps, problems, -⟩ | ⟨-, u, run, emits⟩
    · have first : p ∈ s.structuralProblems c := by
        rw [problems]
        exact List.mem_cons_self
      exact absurd ((suffers p).mp first) (fits asked p)
    · exact ⟨u.log, emits.eq_saying ▸ run⟩

/-! ### A class that is only allocated -/

namespace Sample

/-- A class that was allocated over a host class without holders, and not configured. -/
def allocatedKit : Store :=
  (exec (allocateFor kitClass)
    { opened with natives := ⟨[], [("kit", kit.inheritHolders)], false⟩ }).2

end Sample

/-- It has neither base nor constructor, its host class declares no holders, and its members are not
looked up anywhere yet. Strict linking stops at the first of these findings. -/
theorem verifyClass_reports_allocated :
    let s := Sample.allocatedKit
    let strictly := s.withOptions ⟨0⟩ .strictly
    (s.reportOf ⟨0⟩).items = [.structural .noBase, .structural .noConstructor,
        .inheritedHolders .static, .inheritedHolders .instance, .missingNative .static "greet",
        .missingNative .static "wave", .missingNative .instance "size"] ∧
      (s.reportOf ⟨0⟩).IsSaid "Kit" (s.findingsOf ⟨0⟩) ∧
      (∃ log, exec (verifyClass ⟨0⟩ ⟨0⟩) s =
        (.ok (s.reportOf ⟨0⟩), { s.saying ⟨0⟩ (s.findingsOf ⟨0⟩) with log := log })) ∧
      exec (verifyClass ⟨0⟩ ⟨0⟩) strictly =
        (.error (.breach (.structural "Kit" .noBase)), strictly) := by
  intro s strictly
  have name : s.className ⟨0⟩ = "Kit" := by decide +kernel
  have lenient : (s.domain ⟨0⟩).options.strict = false := by decide +kernel
  obtain ⟨-, reports, -, said, -⟩ :=
    verifyClass_reports ⟨0⟩ (d := ⟨0⟩) (s := s) (by decide +kernel)
  obtain ⟨fails, -⟩ := verifyClass_reports ⟨0⟩ (d := ⟨0⟩) (s := strictly) (by decide +kernel)
  refine ⟨by decide +kernel, name ▸ said, reports fun asked => ?_, ?_⟩
  · cases lenient.symm.trans asked
  · refine (fails _ _).mpr ⟨by decide +kernel, rfl, .noBase, [.noConstructor], by decide +kernel, ?_⟩
    rw [show strictly.className ⟨0⟩ = "Kit" from name]

end ClassLink
