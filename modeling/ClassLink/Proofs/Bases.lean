import ClassLink.Proofs.Chains
import ClassLink.Proofs.Retrying

/-!
# Bases in any order of construction

Classes are allocated, configured and created in any order, over any class that has been
allocated, the class itself too (`Constructing`). A class that builds its template refuses a base
that is not finalized. One that takes over the template of its host constructor does not look at
its base, so it may be wired to a base that is not finalized: it is *loose* (`Store.loosened`). The
chain of bases of a class comes to an end unless it leads to a loose class that is above itself.
-/

namespace ClassLink

variable {s t u : Store} {loose : Set ClassRef} {d : DomainRef} {c : ClassRef}
  {base : Option ClassRef} {offered : FunctionRef}

/-! ### Wiring one class at a time -/

/-- Every class is wired in `t` as in `s`. -/
def Store.KeepsWirings (s t : Store) : Prop := ∀ k, (t.classAt k).wiring = (s.classAt k).wiring

theorem Store.base_congr {k : ClassRef} (h : (t.classAt k).wiring = (s.classAt k).wiring) :
    t.base k = s.base k := by
  rw [Store.base, Class.base?, h]
  rfl

theorem Store.KeepsWirings.base_eq (h : s.KeepsWirings t) : t.base = s.base :=
  funext fun k => base_congr (h k)

/-- One class is wired. If its base is not finalized, then it took over its template. -/
structure Store.Wires (s t : Store) (c : ClassRef) (base : Option ClassRef) : Prop where
  unwired : (s.classAt c).wiring = none
  wired : ∃ w, (t.classAt c).wiring = some w ∧ w.base = base ∧
    ∀ b, base = some b → (s.classAt b).delegate? = none → w.strategy = .takeover
  others : ∀ k, k ≠ c → (t.classAt k).wiring = (s.classAt k).wiring

namespace Store

theorem keepsWirings_modifyClass {f : Class → Class} (h : ∀ x, (f x).wiring = x.wiring) :
    s.KeepsWirings (s.modifyClass c f) := fun k => by
  rw [classAt_modifyClass]
  split
  · exact h _
  · rfl

theorem keepsWirings_allocate {k : Class} (h : k.wiring = none) (s : Store) :
    s.KeepsWirings ((allocate k).run s).2 := fun x => by
  rw [allocate_run]
  refine (congrArg Class.wiring (s.classAt_push k x)).trans ?_
  split
  · rename_i new
    rw [h, classAt, Array.getElem?_eq_none new.ge]
    rfl
  · rfl

theorem keepsWirings_setConstructor (d : DomainRef) (c : ClassRef) (f : FunctionRef) (s : Store) :
    s.KeepsWirings ((setConstructor d c f).run s).2 := by
  rw [setConstructor_run]
  cases (s.classAt c).constructor with
  | none => exact keepsWirings_modifyClass fun _ => rfl
  | some _ => exact fun _ => rfl

theorem keepsWirings_finishClass (c : ClassRef) (f : FunctionRef) (w : Wiring) (s : Store) :
    s.KeepsWirings (exec (finishClass c f w) s).2 := by
  have settled : s.KeepsWirings (s.settled c f) := keepsWirings_modifyClass fun _ => rfl
  rw [exec_finishClass, exec_setTemplate]
  split_ifs <;> exact settled

theorem wires_of_configured {w : Wiring} (h : Configured s u c base w) : s.Wires u c base where
  unwired := h.unwired
  wired := by
    refine ⟨w, by rw [h.classAt], h.base_eq, fun b hb bare => ?_⟩
    cases e : w.strategy with
    | takeover => rfl
    | build =>
      have finalized := (h.build e).2 b hb
      rw [bare] at finalized
      cases finalized
  others k ne := congrArg Class.wiring (h.others k ne)

theorem Wires.trans (h : s.Wires t c base) (k : t.KeepsWirings u) : s.Wires u c base where
  unwired := h.unwired
  wired := by rw [k c]; exact h.wired
  others x ne := (k x).trans (h.others x ne)

/-- Configuring wires the class, or nothing. -/
theorem wires_of_configure (lt : c.index < s.classes.size) :
    s.KeepsWirings (exec (configure c base) s).2 ∨ s.Wires (exec (configure c base) s).2 c base := by
  rcases configure_cases lt base with ⟨e, run⟩ | ⟨u, w, run, configured⟩ <;> rw [run]
  · exact .inl fun _ => rfl
  · exact .inr (wires_of_configured configured)

/-- Creating wires the class, or nothing, whether it succeeds or not. -/
theorem wires_of_create (lt : c.index < s.classes.size) :
    s.KeepsWirings (exec (create d c base offered) s).2 ∨
      s.Wires (exec (create d c base offered) s).2 c base := by
  rcases create_cases lt d base offered with ⟨e, run⟩ | ⟨u, w, unset, run, configured⟩
  · rw [run]
    exact .inl fun _ => rfl
  · rw [exec_create_of_configured lt unset run configured]
    refine .inr ((wires_of_configured configured).trans fun k => ?_)
    exact (keepsWirings_finishClass _ _ _ _ k).trans (keepsWirings_setConstructor _ _ _ _ k)

end Store

/-! ### Runs of constructions -/

/-- The classes that a step wires to a base that was not finalized before it. -/
def Store.loosened (s t : Store) : Set ClassRef :=
  {k | (s.classAt k).wiring = none ∧ ∃ b, t.base k = some b ∧ (s.classAt b).delegate? = none}

/-- A store reached by constructing classes, and the loose ones among them. -/
inductive Constructing : Store → Set ClassRef → Prop
  /-- There are no classes yet. -/
  | start {s : Store} : s.classes = #[] → Constructing s ∅
  /-- A class of bytecode is allocated. -/
  | bytecode {s : Store} {loose : Set ClassRef} (descriptor : ClassDescriptor) :
      Constructing s loose → Constructing ((allocateBytecode descriptor).run s).2 loose
  /-- A class over host objects is allocated, with a constructor or without. -/
  | native {s : Store} {loose : Set ClassRef} (descriptor : ClassDescriptor) (id : String)
      (parts : NativeParts) :
      Constructing s loose → Constructing ((allocateNative descriptor id parts).run s).2 loose
  /-- A class is configured, or that fails. -/
  | configure {s : Store} {loose : Set ClassRef} {c : ClassRef} {base : Option ClassRef} :
      Constructing s loose → c.index < s.classes.size →
      (∀ b, base = some b → b.index < s.classes.size) →
      Constructing (exec (configure c base) s).2
        (loose ∪ s.loosened (exec (configure c base) s).2)
  /-- A class is created, or that fails. -/
  | create {s : Store} {loose : Set ClassRef} {d : DomainRef} {c : ClassRef}
      {base : Option ClassRef} {offered : FunctionRef} :
      Constructing s loose → c.index < s.classes.size →
      (∀ b, base = some b → b.index < s.classes.size) →
      Constructing (exec (create d c base offered) s).2
        (loose ∪ s.loosened (exec (create d c base offered) s).2)
  /-- Whatever else is done wires no class. -/
  | other {s t : Store} {loose : Set ClassRef} :
      Constructing s loose → t.classes.size = s.classes.size → s.KeepsWirings t →
      Constructing t loose

/-- Loose classes took over their template, the base of any other class is finalized, and a chain
of bases comes to an end unless it leads to a loose class that is above itself. -/
structure Store.Tethered (s : Store) (loose : Set ClassRef) : Prop where
  takeover : ∀ k ∈ loose, (s.classAt k).strategy? = some .takeover
  finalized : ∀ k b, s.base k = some b → k ∉ loose → (s.classAt b).wiring.isSome
  ends : ∀ k, Chain.Ends s.base k ∨ ∃ l ∈ loose, Chain.Reaches s.base k l ∧ Chain.Above s.base l l

namespace Store

theorem Wires.bases (h : s.Wires t c base) : s.base c = none ∧ t.base c = base ∧
    ∀ k, k ≠ c → t.base k = s.base k := by
  obtain ⟨w, wired, base_eq, _⟩ := h.wired
  refine ⟨?_, ?_, fun k ne => base_congr (h.others k ne)⟩
  · rw [Store.base, Class.base?, h.unwired]
    rfl
  · rw [Store.base, Class.base?, wired, ← base_eq]
    rfl

theorem loosened_of_keepsWirings (h : s.KeepsWirings t) : s.loosened t = ∅ := by
  refine Set.eq_empty_of_forall_notMem fun k ⟨unwired, b, hb, _⟩ => ?_
  rw [h.base_eq, Store.base, Class.base?, unwired] at hb
  cases hb

theorem Tethered.keeps (h : s.Tethered loose) (k : s.KeepsWirings t) : t.Tethered loose where
  takeover x hx := by rw [Class.strategy?, k x]; exact h.takeover x hx
  finalized x b hb tied := by rw [k b]; exact h.finalized x b (k.base_eq ▸ hb) tied
  ends x := by rw [k.base_eq]; exact h.ends x

/-- A chain of bases that leads from a class that is wired to one that is not passes a loose
class. -/
theorem Tethered.passes_loose (h : s.Tethered loose) {b : ClassRef}
    (unwired : (s.classAt c).wiring = none) (path : Chain.Reaches s.base b c)
    (wired : (s.classAt b).wiring.isSome) :
    ∃ l ∈ loose, Chain.Reaches s.base b l ∧ Chain.Reaches s.base l c := by
  induction path using Relation.ReflTransGen.head_induction_on with
  | refl =>
    rw [unwired] at wired
    cases wired
  | @head x y step rest ih =>
    by_cases hx : x ∈ loose
    · exact ⟨x, hx, .refl, rest.head step⟩
    · obtain ⟨l, hl, up, down⟩ := ih (h.finalized x y step hx)
      exact ⟨l, hl, up.head step, down⟩

/-- The class that is wired leads to nothing, or to a loose class that is above itself: if its chain
comes back to it, then it is loose, or its base was finalized and the chain passes a loose class
on its way from there. -/
theorem Tethered.wired_ends (h : s.Tethered loose) (k : s.Wires t c base) :
    Chain.Ends t.base c ∨
      ∃ l ∈ loose ∪ s.loosened t, Chain.Reaches t.base c l ∧ Chain.Above t.base l l := by
  obtain ⟨none, base_eq, same⟩ := k.bases
  cases base with
  | none => exact .inl (.last base_eq)
  | some b =>
    rcases h.ends b with ends | ⟨l, hl, up, loop⟩
    · rcases ends.or_reaches same none with ends | back
      · exact .inl (.step base_eq ends)
      · right
        cases finalized : (s.classAt b).wiring with
        | none =>
          have bare : (s.classAt b).delegate? = .none := by rw [Class.delegate?, finalized]; rfl
          exact ⟨c, .inr ⟨k.unwired, b, base_eq, bare⟩, .refl, .of_reaches base_eq back⟩
        | some w =>
          obtain ⟨l, hl, up, down⟩ := h.passes_loose k.unwired (back.of_same same)
            (by rw [finalized]; rfl)
          have up := up.mono same none
          refine ⟨l, .inl hl, up.head base_eq, ?_⟩
          rcases Chain.reaches_iff.mp (down.mono same none) with rfl | down
          · exact .of_reaches base_eq up
          · exact down.trans (.of_reaches base_eq up)
    · exact .inr ⟨l, .inl hl, (up.mono same none).head base_eq, loop.mono same none⟩

/-- One more class is wired; if its base is not finalized, it is loose. -/
theorem Tethered.wires (h : s.Tethered loose) (k : s.Wires t c base) :
    t.Tethered (loose ∪ s.loosened t) := by
  obtain ⟨none, base_eq, same⟩ := k.bases
  obtain ⟨w, wired, _, takeover⟩ := k.wired
  -- what was wired, is so still
  have kept : ∀ x, (s.classAt x).wiring.isSome → (t.classAt x).wiring = (s.classAt x).wiring :=
    fun x hx => k.others x fun e => by rw [e, k.unwired] at hx; cases hx
  refine ⟨?_, fun x b hb tied => ?_, fun x => ?_⟩
  · rintro l (hl | ⟨unwired, b, hb, bare⟩)
    · have strategy := h.takeover l hl
      rw [Class.strategy?, kept l (by rw [← Option.isSome_map, ← Class.strategy?, strategy]; rfl)]
      exact strategy
    · by_cases at_ : l = c
      · subst at_
        rw [Class.strategy?, wired, ← takeover b (base_eq.symm.trans hb) bare]
        rfl
      · rw [same l at_, Store.base, Class.base?, unwired] at hb
        cases hb
  · have finalized : (s.classAt b).wiring.isSome := by
      by_cases at_ : x = c
      · subst at_
        by_contra bare
        refine tied (.inr ⟨k.unwired, b, hb, ?_⟩)
        rw [Class.delegate?, Option.not_isSome_iff_eq_none.mp bare]
        rfl
      · exact h.finalized x b (same x at_ ▸ hb) fun hx => tied (.inl hx)
    rw [kept b finalized]
    exact finalized
  · rcases h.ends x with ends | ⟨l, hl, up, loop⟩
    · rcases ends.or_reaches same none with ends | up
      · exact .inl ends
      · rcases h.wired_ends k with ends | ⟨l, hl, up', loop⟩
        · exact .inl (up.ends ends)
        · exact .inr ⟨l, hl, up.trans up', loop⟩
    · exact .inr ⟨l, .inl hl, up.mono same none, loop.mono same none⟩

/-- A step that wires one class at most. -/
theorem Tethered.step (h : s.Tethered loose) (k : s.KeepsWirings t ∨ s.Wires t c base) :
    t.Tethered (loose ∪ s.loosened t) := by
  rcases k with keeps | wires
  · rw [loosened_of_keepsWirings keeps, Set.union_empty]
    exact h.keeps keeps
  · exact h.wires wires

end Store

theorem Constructing.tethered (h : Constructing s loose) : s.Tethered loose := by
  induction h with
  | @start s classes =>
    have wiring : ∀ k, (s.classAt k).wiring = none := fun k => by rw [Store.classAt, classes]; rfl
    have last : ∀ k, s.base k = none := fun k => by rw [Store.base, Class.base?, wiring k]; rfl
    refine ⟨fun _ hk => hk.elim, fun k b hb => ?_, fun k => .inl (.last (last k))⟩
    rw [last k] at hb
    cases hb
  | bytecode descriptor _ ih =>
    refine ih.keeps ?_
    unfold allocateBytecode
    rw [run_bind]
    exact fun k => Store.keepsWirings_allocate rfl _ k
  | native descriptor id parts _ ih => exact ih.keeps (Store.keepsWirings_allocate rfl _)
  | configure _ lt _ ih => exact ih.step (Store.wires_of_configure lt)
  | create _ lt _ ih => exact ih.step (Store.wires_of_create lt)
  | other _ _ keeps ih => exact ih.keeps keeps

/-- A class that builds its template is not configured over a base that is not finalized. -/
theorem exec_configure_of_bare {b : ClassRef} (unwired : (s.classAt c).wiring = none)
    (build : fixedTemplate? s (s.classAt c) = .ok none) (bare : (s.classAt b).delegate? = none) :
    exec (configure c (some b)) s =
      (.error (.breach (.baseNotFinalized (s.className b) (s.className c))), s) := by
  rw [exec_configure, unwired, build, delegateParent?]
  simp only [bare]
  rfl

/-- What cannot be configured cannot be created. -/
theorem exec_create_of_failed_configure {e : Fault} (unwired : (s.classAt c).wiring = none)
    (unset : (s.classAt c).constructorNoInit = none)
    (failed : exec (configure c base) s = (.error e, t)) (d : DomainRef) (f : FunctionRef) :
    exec (create d c base f) s = (.error e, t) := by
  rw [exec_create, unset, unwired, if_neg (by simp), if_neg (by simp), exec_bind, failed]

/-- **Which base chains come to an end.** Those that do not lead to a loose class above itself. A
loose class took over its template; a class that builds its template is refused over a base that is
not finalized. -/
theorem bases_end_iff_of_constructing (h : Constructing s loose) :
    (∀ k, Chain.Ends s.base k ↔
      ¬∃ l ∈ loose, Chain.Reaches s.base k l ∧ Chain.Above s.base l l) ∧
    (∀ l ∈ loose, (s.classAt l).strategy? = some .takeover) ∧
    ∀ c b, (s.classAt c).wiring = none → fixedTemplate? s (s.classAt c) = .ok none →
      (s.classAt b).delegate? = none →
      exec (configure c (some b)) s =
        (.error (.breach (.baseNotFinalized (s.className b) (s.className c))), s) ∧
      ((s.classAt c).constructorNoInit = none → ∀ d f, exec (create d c (some b) f) s =
        (.error (.breach (.baseNotFinalized (s.className b) (s.className c))), s)) := by
  have tethered := h.tethered
  refine ⟨fun k => ⟨?_, fun tied => (tethered.ends k).resolve_right tied⟩, tethered.takeover, ?_⟩
  · rintro ends ⟨l, _, up, loop⟩
    exact (ends.reaches up).irrefl loop
  · intro c b unwired build bare
    have refused := exec_configure_of_bare unwired build bare
    exact ⟨refused, fun unset => exec_create_of_failed_configure unwired unset refused⟩

/-! ### A class over itself -/

namespace Sample

/-- The parts of a class over the host constructor. -/
def fixedParts : NativeParts where
  classObject := ⟨2⟩
  constructor := some ⟨0⟩
  staticNatives := .own []
  instanceNatives := .own []
  callStyle := .passThrough
  coercion := .instance
  defaultValue := .null
  initFlags := .none

/-- The class is allocated. -/
def hosted : Store :=
  (exec (do
    let _ ← newObject none
    allocateNative (.bare "Hosted") "HostedClass" fixedParts : Run ClassRef) furnished).2

/-- The class is configured over itself. -/
def overItself : Run Unit := configure ⟨0⟩ (some ⟨0⟩)

theorem constructing_hosted : Constructing hosted ∅ :=
  .native _ _ _ (.start (s := ((newObject none).run furnished).2) rfl)

theorem base_overItself : (exec overItself hosted).2.base ⟨0⟩ = some ⟨0⟩ := by decide +kernel

end Sample

/-- Of a class over itself the chain of bases does not come to an end. -/
theorem bases_end_iff_of_overItself :
    ∃ loose, Constructing (exec Sample.overItself Sample.hosted).2 loose ∧
      ¬Chain.Ends (exec Sample.overItself Sample.hosted).2.base ⟨0⟩ := by
  have run : Constructing (exec Sample.overItself Sample.hosted).2 _ :=
    .configure Sample.constructing_hosted (by decide +kernel) (by decide +kernel)
  refine ⟨_, run, fun ends => ((bases_end_iff_of_constructing run).1 ⟨0⟩).mp ends ?_⟩
  exact ⟨⟨0⟩, .inr ⟨by decide +kernel, ⟨0⟩, Sample.base_overItself, by decide +kernel⟩, .refl,
    .next Sample.base_overItself⟩

/-- A class that is not finalized is accepted as a base, and the chain of bases does not come to an
end. -/
theorem not_bases_end_overItself :
    (Sample.hosted.classAt ⟨0⟩).delegate? = none ∧
      (exec Sample.overItself Sample.hosted).1.isOk ∧
      ∃ loose, Constructing (exec Sample.overItself Sample.hosted).2 loose ∧
        ¬Chain.Ends (exec Sample.overItself Sample.hosted).2.base ⟨0⟩ :=
  ⟨by decide +kernel, by decide +kernel, _,
    .configure Sample.constructing_hosted (by decide +kernel) (by decide +kernel),
    fun ends => ends.irrefl (.next Sample.base_overItself)⟩

end ClassLink
