import ClassLink.Proofs.Footprint

/-!
# What verifying finds and says

Verifying a class computes its findings from the store and says each of them once: the report
(`Store.reportOf`) and the diagnostics (`Store.findingsOf`) are the same findings in two forms.
Nothing but the diagnostics of the domain is written. Strict linking stops at a structural
problem before anything is said.
-/

namespace ClassLink

/-- A native member without implementation is what was found. -/
def Diagnostic.isMissingNative (x : Diagnostic) : Bool :=
  match x.finding with
  | .missingNative .. => true
  | _ => false

/-! ### Saying -/

/-- Diagnostics were added to those of a domain, and nothing else was written but the log. -/
structure Emits (d : DomainRef) (xs : List Diagnostic) (s t : Store) : Prop where
  confined : Confined { Footprint.none with domains := {d} } s t
  objects : t.objects = s.objects
  functions : t.functions = s.functions
  classes : t.classes = s.classes
  diagnostics : (t.domain d).diagnostics = (s.domain d).diagnostics ++ xs
  stats : (t.domain d).stats = (s.domain d).stats

namespace Emits

variable {d : DomainRef} {xs ys : List Diagnostic} {s t u : Store}

theorem refl (d : DomainRef) (s : Store) : Emits d [] s s :=
  ⟨.refl _ s, rfl, rfl, rfl, (List.append_nil _).symm, rfl⟩

theorem trans (h : Emits d xs s t) (k : Emits d ys t u) : Emits d (xs ++ ys) s u where
  confined := h.confined.trans k.confined
  objects := k.objects.trans h.objects
  functions := k.functions.trans h.functions
  classes := k.classes.trans h.classes
  diagnostics := by rw [k.diagnostics, h.diagnostics, List.append_assoc]
  stats := k.stats.trans h.stats

theorem logged (h : Emits d xs s t) (r : LogRecord) : Emits d xs s (t.record r) :=
  { h with confined := h.confined.trans (confined_record _ t r) }

/-- A diagnostic is added at the end. -/
theorem emit (lt : d.index < s.domains.size) (x : Diagnostic) :
    Emits d [x] s ((emit d x).run s).2 := by
  have written := domain_emit lt x
  exact ⟨confined_emit rfl x, rfl, rfl, rfl, by rw [written], by rw [written]⟩

end Emits

section
variable {d : DomainRef} {s : Store} {α : Type}

/-- A loop that says something of each element says it in order. -/
theorem exec_forIn_emit (say : α → Diagnostic) (xs : List α) (lt : d.index < s.domains.size) :
    ∃ t, exec (forIn xs PUnit.unit fun a _ => do
        liftM (emit d (say a)); pure (ForInStep.yield PUnit.unit)) s = (.ok PUnit.unit, t) ∧
      Emits d (xs.map say) s t := by
  refine ⟨_, exec_forIn_lift xs (fun a => emit d (say a)) s, ?_⟩
  induction xs generalizing s with
  | nil => exact .refl d s
  | cons a xs ih =>
    have first : Emits d [say a] s ((emit d (say a)).run s).2 := .emit lt _
    exact first.trans (ih (first.confined.domains_eq ▸ lt))

/-- Missing members are reported by set and name, and said with their kinds. -/
theorem exec_mapM_reportMissing (className : String) (set : TraitSet) (traits : List Trait)
    (lt : d.index < s.domains.size) :
    ∃ t, exec (traits.mapM fun m => (reportMissing d className set m : Run _)) s =
        (.ok (traits.map fun m => (set, m.name.display)), t) ∧
      Emits d (traits.map fun m => .warning className (.missingNative m.name.display m.kind set))
        s t := by
  induction traits generalizing s with
  | nil => exact ⟨s, rfl, .refl d s⟩
  | cons m ms ih =>
    have first : Emits d [.warning className (.missingNative m.name.display m.kind set)] s
        ((reportMissing d className set m).run s).2 := .emit lt _
    obtain ⟨t, run, rest⟩ := ih (first.confined.domains_eq ▸ lt)
    refine ⟨t, ?_, first.trans rest⟩
    rw [List.mapM_cons, exec_lift_bind, exec_bind, run]
    rfl

end

/-! ### Verifying -/

namespace Store

variable (s : Store) (c : ClassRef)

/-- The native class-level members of a class that no holder implements. -/
def missingStatics : List Trait :=
  s.missingNatives (s.classAt c).descriptor.staticTraits (s.classAt c).staticHolders

/-- The native instance members of a class that no holder implements. -/
def missingInstances : List Trait :=
  s.missingNatives (s.classAt c).descriptor.instanceTraits (s.classAt c).instanceHolders

/-- The findings on a class, as its report has them. -/
def reportOf : Report where
  missingNatives := (s.missingStatics c).map (fun t => (TraitSet.static, t.name.display)) ++
    (s.missingInstances c).map fun t => (.instance, t.name.display)
  structural := s.structuralProblems c
  inheritedHolders := s.inheritedHolders c

/-- The findings on a class, as its domain has them. -/
def findingsOf : List Diagnostic :=
  (s.structuralProblems c).map (fun p => .error (s.className c) (.structural p)) ++
    ((s.inheritedHolders c).map (fun set => .warning (s.className c) (.inheritedHolders set)) ++
      ((s.missingStatics c).map (fun t =>
          .warning (s.className c) (.missingNative t.name.display t.kind .static)) ++
        (s.missingInstances c).map fun t =>
          .warning (s.className c) (.missingNative t.name.display t.kind .instance)))

end Store

/-- As many missing members are said as are reported. -/
theorem Store.countP_findingsOf (s : Store) (c : ClassRef) :
    (s.findingsOf c).countP (·.isMissingNative) = (s.reportOf c).missingNatives.length := by
  have none : ∀ {α : Type} (xs : List α) (say : α → Diagnostic),
      (∀ a, (say a).isMissingNative = false) → (xs.map say).countP (·.isMissingNative) = 0 := by
    intro α xs say h
    rw [List.countP_eq_zero]
    intro x hx
    obtain ⟨a, _, rfl⟩ := List.mem_map.mp hx
    simp [h]
  have all : ∀ (ms : List Trait) (say : Trait → Diagnostic),
      (∀ m, (say m).isMissingNative = true) →
        (ms.map say).countP (·.isMissingNative) = ms.length := by
    intro ms say h
    rw [← List.length_map say, List.countP_eq_length]
    intro x hx
    obtain ⟨m, _, rfl⟩ := List.mem_map.mp hx
    exact h m
  rw [findingsOf, List.countP_append, List.countP_append, List.countP_append,
    none _ _ fun _ => rfl, none _ _ fun _ => rfl, all _ _ fun _ => rfl, all _ _ fun _ => rfl,
    reportOf, List.length_append, List.length_map, List.length_map, Nat.zero_add, Nat.zero_add]

/-- What verifying does when nothing stops it. -/
def sayFindings (d : DomainRef) (c : ClassRef) (s : Store) : Run Report := do
  let k := s.classAt c
  for p in s.structuralProblems c do
    emit d (.error k.name (.structural p))
  for set in s.inheritedHolders c do
    emit d (.warning k.name (.inheritedHolders set))
  let statics ← (s.missingStatics c).mapM fun t => (reportMissing d k.name .static t : Run _)
  let instances ← (s.missingInstances c).mapM fun t => (reportMissing d k.name .instance t : Run _)
  let report : Report := ⟨statics ++ instances, s.structuralProblems c, s.inheritedHolders c⟩
  log (.debug LogRecord.verifyTarget
    ("verified " ++ k.name ++ " (" ++ Numeral.decimal report.size ++ " finding(s))"))
  return report

theorem exec_sayFindings (d : DomainRef) (c : ClassRef) {s : Store} (lt : d.index < s.domains.size) :
    ∃ t, exec (sayFindings d c s) s = (.ok (s.reportOf c), t) ∧ Emits d (s.findingsOf c) s t := by
  -- the four parts of the findings are said one after the other
  obtain ⟨s₁, run₁, said₁⟩ := exec_forIn_emit
    (fun p => .error (s.className c) (.structural p)) (s.structuralProblems c) lt
  have lt₁ := said₁.confined.domains_eq ▸ lt
  obtain ⟨s₂, run₂, said₂⟩ := exec_forIn_emit
    (fun set => .warning (s.className c) (.inheritedHolders set)) (s.inheritedHolders c) lt₁
  have lt₂ := said₂.confined.domains_eq ▸ lt₁
  obtain ⟨s₃, run₃, said₃⟩ :=
    exec_mapM_reportMissing (s.className c) .static (s.missingStatics c) lt₂
  have lt₃ := said₃.confined.domains_eq ▸ lt₂
  obtain ⟨s₄, run₄, said₄⟩ :=
    exec_mapM_reportMissing (s.className c) .instance (s.missingInstances c) lt₃
  let last : LogRecord := .debug LogRecord.verifyTarget ("verified " ++ s.className c ++ " (" ++
    Numeral.decimal (s.reportOf c).size ++ " finding(s))")
  refine ⟨s₄.record last, ?_, said₁.trans (said₂.trans (said₃.trans (said₄.logged last)))⟩
  unfold sayFindings
  exact exec_bind_ok.mpr ⟨_, s₁, run₁, exec_bind_ok.mpr ⟨_, s₂, run₂, exec_bind_ok.mpr
    ⟨_, s₃, run₃, exec_bind_ok.mpr ⟨_, s₄, run₄, rfl⟩⟩⟩⟩

/-- What verifying does if strict linking has nothing to object to. -/
theorem exec_verifyClass_of_fits {d : DomainRef} {c : ClassRef} {s : Store}
    (fits : (s.domain d).options.strict = true → s.structuralProblems c = []) :
    exec (verifyClass d c) s = exec (sayFindings d c s) s := by
  unfold verifyClass
  rw [exec_get_bind]
  rcases strict : (s.domain d).options.strict with _ | _
  · rfl
  · unfold sayFindings
    rw [fits strict]
    rfl

/-- **Verifying.** Strict linking fails on the first structural problem and writes nothing;
otherwise the findings are reported and said. -/
theorem exec_verifyClass (d : DomainRef) (c : ClassRef) {s : Store} (lt : d.index < s.domains.size) :
    ((s.domain d).options.strict = true ∧ ∃ p ps, s.structuralProblems c = p :: ps ∧
        exec (verifyClass d c) s = (.error (.breach (.structural (s.className c) p)), s)) ∨
      ((s.domain d).options.strict = true → s.structuralProblems c = []) ∧
        ∃ t, exec (verifyClass d c) s = (.ok (s.reportOf c), t) ∧ Emits d (s.findingsOf c) s t := by
  by_cases fits : (s.domain d).options.strict = true → s.structuralProblems c = []
  · obtain ⟨t, said, emits⟩ := exec_sayFindings d c lt
    exact .inr ⟨fits, t, (exec_verifyClass_of_fits fits).trans said, emits⟩
  · obtain ⟨strict, problems⟩ := Classical.not_imp.mp fits
    obtain ⟨p, ps, problems⟩ := List.exists_cons_of_ne_nil problems
    refine .inl ⟨strict, p, ps, problems, ?_⟩
    unfold verifyClass
    rw [exec_get_bind, strict, problems]
    rfl

end ClassLink
