import ClassLink.Proofs.Retrying

/-!
# Links that fail

A link fails when its descriptor is not valid, its host class is not registered, its base is not
finalized, or its class is not well formed and linking is strict. The last is found out after the
class has been created, when its constructor, its template and its owners have been written. All of
them are new: whatever was in the store before is as it was, except that the domain may have
been told that a host class keeps its constructor (`Store.Untouched`). This holds for any
synthesizer that makes new functions with templates that may be replaced.
-/

namespace ClassLink

variable {s t u : Store} {d : DomainRef} {descriptor : ClassDescriptor} {base : Option ClassRef}
  {scope : Scope} {c : ClassRef} {offered : FunctionRef} {e : Fault}

/-- Whatever `s` has is in `t` as it was; the domain has one diagnostic more at most, which is that
the constructor of the class named is not the one it was offered. -/
structure Store.Untouched (s t : Store) (d : DomainRef) (name : String) : Prop where
  object : ∀ o : ObjectRef, o.index < s.objects.size → t.object o = s.object o
  function : ∀ f : FunctionRef, f.index < s.functions.size → t.function f = s.function f
  classAt : ∀ c : ClassRef, c.index < s.classes.size → t.classAt c = s.classAt c
  natives : t.natives = s.natives
  others : ∀ x, x ≠ d → t.domain x = s.domain x
  domain : t.domain d = s.domain d ∨ t.domain d = { s.domain d with
    diagnostics := (s.domain d).diagnostics ++ [.warning name .ignoredConstructor] }

/-- What is written beyond a store and to its domain. -/
theorem Confined.untouched {name : String} (h : Confined (.beyond s d) s t)
    (domain : t.domain d = s.domain d ∨ t.domain d = { s.domain d with
      diagnostics := (s.domain d).diagnostics ++ [.warning name .ignoredConstructor] }) :
    s.Untouched t d name where
  object _ ho := h.object ho ho.not_ge ho.not_ge
  function f hf := h.function f hf hf.not_ge
  classAt c hc := h.classAt c hc hc.not_ge
  natives := h.natives
  others x hx := h.domain x hx
  domain := domain

/-- A class that is offered a constructor whose template may be replaced is no misfit. -/
theorem Offered.not_misfit (h : Offered descriptor s t c offered) :
    ¬t.Misfit c base offered := by
  intro misfit
  have fixed := misfit.fixed
  rw [h.offered_writable] at fixed
  cases fixed

/-- Checking that fails writes nothing. -/
theorem eq_of_failed_checkClass (lt : d.index < s.domains.size)
    (failed : exec (checkClass d c) s = (.error e, t)) : t = s := by
  rcases exec_checkClass c lt with ⟨_, run⟩ | ⟨_, _, _, _, _, run⟩ | ⟨_, _, _, _, run⟩
  · cases run.symm.trans failed
  · exact (Prod.mk.inj (run.symm.trans failed)).2.symm
  · cases run.symm.trans failed

/-- A link that fails, with any synthesizer. -/
theorem untouched_of_failed_linkBy {make : Synthesis} (new : make.MakesNew)
    {members : ClassRef → Action Unit} (lt : d.index < s.domains.size)
    (failed : exec (linkBy make members d descriptor base scope) s = (.error e, t)) :
    s.Untouched t d descriptor.display := by
  refine (confined_of_failed_linkBy new lt failed).untouched ?_
  rcases stages_of_failed_linkBy new failed with rfl | ⟨c, s₁, f, offered, failed⟩
  · exact .inl rfl
  have domain : s₁.domain d = s.domain d := offered.confined.domain d (Set.notMem_empty d)
  have inside : d.index < s₁.domains.size := offered.confined.domains_eq ▸ lt
  have name : s₁.className c = descriptor.display :=
    congrArg ClassDescriptor.display offered.descriptor
  rcases failed with failed | ⟨s₂, created, failed⟩
  · rw [eq_of_failed_create offered.lt offered.not_misfit failed]
    exact .inl domain
  · have inside' : d.index < s₂.domains.size := (offered.confined_created created).domains_eq ▸ lt
    rw [eq_of_failed_checkClass inside' failed, ← domain, ← name]
    exact domain_of_create offered.lt inside (fun _ ho => (offered.hostTemplate_new ho).2.1) created

/-- **Linking is all or nothing.** A link that fails leaves what was there before it as it was; at
most it says that a constructor is ignored. -/
theorem untouched_of_failed_link (descriptor : ClassDescriptor) (base : Option ClassRef)
    (scope : Scope) (inside : d.index < s.domains.size) :
    (∀ make members e t, Synthesis.MakesNew make →
      exec (linkBy make members d descriptor base scope) s = (.error e, t) →
      s.Untouched t d descriptor.display) ∧
    ∀ e t, exec (link d descriptor base scope) s = (.error e, t) →
      s.Untouched t d descriptor.display := by
  refine ⟨fun _ _ _ _ new failed => untouched_of_failed_linkBy new inside failed, ?_⟩
  intro e t failed
  rw [exec_link_eq_linkBy] at failed
  exact untouched_of_failed_linkBy (makesNew_synthesize d) inside failed

/-! ### A host class without base -/

namespace Sample

/-- A host class with a constructor. -/
def engine : NativeDefinition :=
  { NativeDefinition.bare "engine" with
    constructor := some (ConstructorDefinition.simple "Engine" 0 (.script .receiver)) }

/-- A class over it. -/
def engineClass : ClassDescriptor := { ClassDescriptor.bare "Engine" with nativeId := some "engine" }

/-- A domain that links strictly, and the host class. -/
def demanding : Store :=
  ((newDomain .strictly .inert).run
    { Store.initial with natives := ⟨[], [("engine", engine)], false⟩ }).2

/-- Linking the class over none. -/
def linkEngine : Run ClassRef := link ⟨0⟩ engineClass none (.global ⟨0⟩)

/-- Linking it with the synthesizer of the domain, and binding no members. -/
def linkEngineBy : Run ClassRef :=
  linkBy (synthesize ⟨0⟩) (fun _ => pure ()) ⟨0⟩ engineClass none (.global ⟨0⟩)

theorem exec_linkEngine :
    (∃ e t, exec linkEngine demanding = (.error e, t) ∧
      (t.domain ⟨0⟩).diagnostics = [.warning "Engine" .ignoredConstructor]) ∧
    ∃ e t, exec linkEngineBy demanding = (.error e, t) :=
  ⟨⟨_, _, rfl, by decide +kernel⟩, _, _, rfl⟩

end Sample

/-- The class is created before it is refused; what is left of it is that its host constructor was
kept. -/
theorem untouched_of_failed_link_engine :
    (∃ e t, exec Sample.linkEngine Sample.demanding = (.error e, t) ∧
      Sample.demanding.Untouched t ⟨0⟩ "Engine" ∧
      (t.domain ⟨0⟩).diagnostics = [.warning "Engine" .ignoredConstructor]) ∧
    ∃ e t, exec Sample.linkEngineBy Sample.demanding = (.error e, t) ∧
      Sample.demanding.Untouched t ⟨0⟩ "Engine" := by
  obtain ⟨⟨e, t, failed, said⟩, e', t', failed'⟩ := Sample.exec_linkEngine
  have untouched := untouched_of_failed_link Sample.engineClass none (.global ⟨0⟩)
    (show 0 < Sample.demanding.domains.size by decide +kernel)
  exact ⟨⟨e, t, failed, untouched.2 e t failed, said⟩,
    e', t', failed', untouched.1 _ _ e' t' (makesNew_synthesize ⟨0⟩) failed'⟩

end ClassLink
