import ClassLink.Proofs.Isolation
import Mathlib.Logic.Relation

/-!
# Members of class objects

The instance members of the class of class objects are members of class objects. They come to them
on two ways: the link of that class gives them to the class object of the root, if there is one by
then, and every later link takes them for its own class object. Between the two no class object
that is to have them is left out, in whichever order the classes are linked
(`sharedMembers_of_linking`). They are appended, so what a class object owns by then it keeps, and
no later link takes it away.
-/

namespace ClassLink

/-! ### Runs between two stores -/

/-- One operation of a run, on a store and the classes linked so far. -/
inductive LinkingStep : Store × List ClassRef → Store × List ClassRef → Prop
  | domain {s : Store} {cs : List ClassRef} (options : Options) (synthesizer : Synthesizer) :
      LinkingStep (s, cs) (((newDomain options synthesizer).run s).2, cs)
  | register {s t : Store} {cs : List ClassRef} {definition : NativeDefinition} :
      exec (registerNative definition) s = (.ok (), t) → LinkingStep (s, cs) (t, cs)
  | linked {s t : Store} {cs : List ClassRef} {d : DomainRef} {descriptor : ClassDescriptor}
      {base : Option ClassRef} {scope : Scope} {c : ClassRef} :
      d.index < s.domains.size → (∀ b, base = some b → b ∈ cs) →
      exec (link d descriptor base scope) s = (.ok c, t) → LinkingStep (s, cs) (t, c :: cs)
  | failed {s t : Store} {cs : List ClassRef} {d : DomainRef} {descriptor : ClassDescriptor}
      {base : Option ClassRef} {scope : Scope} {e : Fault} :
      d.index < s.domains.size → (∀ b, base = some b → b ∈ cs) →
      exec (link d descriptor base scope) s = (.error e, t) → LinkingStep (s, cs) (t, cs)

/-- A run leads from one store to another. -/
abbrev LeadsTo : Store × List ClassRef → Store × List ClassRef → Prop :=
  Relation.ReflTransGen LinkingStep

namespace LinkingStep

variable {a b : Store × List ClassRef}

theorem keeps (h : LinkingStep a b) : a.1.Keeps b.1 := by
  cases h with
  | domain options synthesizer => exact keeps_newDomain options synthesizer _
  | register run => exact keeps_registerNative run
  | linked lt _ run =>
    obtain ⟨x, stages⟩ := linkStages_of_link lt run
    exact stages.keeps lt
  | failed lt _ run => exact keeps_of_failed_link lt run

/-- An operation leads from a store that is reached by linking to another one. -/
theorem linking (h : LinkingStep a b) (reached : Linking a.1 a.2) : Linking b.1 b.2 := by
  cases h with
  | domain options synthesizer => exact reached.domain options synthesizer
  | register run => exact reached.register run
  | linked lt old run => exact reached.linked lt old run
  | failed lt old run => exact reached.failed lt old run

/-- No operation of a run takes properties away. -/
theorem gains (h : LinkingStep a b) (reached : Linking a.1 a.2) (o : ObjectRef) :
    (a.1.properties o).Extends (b.1.properties o) := by
  have agrees := (h.linking reached).agrees o
  cases h with
  | domain options synthesizer =>
    exact (confined_newObject (.beyond _ ⟨0⟩) _ none).extends_of_beyond agrees
  | register run =>
    obtain ⟨natives, log, rfl⟩ := store_registerNative run
    exact .refl _
  | linked lt _ run =>
    obtain ⟨x, stages⟩ := linkStages_of_link lt run
    exact stages.gains lt reached.agrees o
  | failed lt _ run => exact (confined_of_failed_link lt run).extends_of_beyond agrees

end LinkingStep

namespace LeadsTo

variable {a b : Store × List ClassRef} (h : LeadsTo a b) (reached : Linking a.1 a.2)
include h reached

theorem linking : Linking b.1 b.2 := by
  induction h with
  | refl => exact reached
  | tail _ step ih => exact step.linking ih

/-- What an object owns it keeps along a run. -/
theorem gains (o : ObjectRef) : (a.1.properties o).Extends (b.1.properties o) := by
  induction h with
  | refl => exact .refl _
  | tail run step ih => exact ih.trans (step.gains (LeadsTo.linking run reached) o)

end LeadsTo

/-! ### Giving members to class objects -/

namespace Store

variable (s : Store) (cs : List ClassRef) (d : DomainRef)

/-- The classes whose class objects are to have the members of `m`: the root, and every class in
the directory after `m` that is not a class of class objects itself. -/
def Receives (m k : ClassRef) : Prop :=
  (s.domain d).rootClass = some k ∨ (s.classAt k).kind ≠ .ofClasses ∧
    ∃ pre post, (s.domain d).directory.classes = pre ++ m :: post ∧ k ∈ post

/-- On the way to a store a link of the domain shared a table with an object, which had these
properties right before. -/
def WasGiven (o : ObjectRef) (shared : Bindings) (before : PropertyTable) : Prop :=
  ∃ r rs t c descriptor base scope x, Linking r rs ∧ d.index < r.domains.size ∧
    (∀ b, base = some b → b ∈ rs) ∧ exec (link d descriptor base scope) r = (.ok c, t) ∧
    LinkStages d descriptor base scope r t c x ∧
    x.bound.sharing? d c x.instances = some (shared, o) ∧ x.bound.properties o = before ∧
    LeadsTo (t, c :: rs) (s, cs)

/-- An object has the members of a table, which were shared with it. -/
structure HasMembers (o : ObjectRef) (shared : Bindings) : Prop where
  owns : ∀ e ∈ shared.flattened, (s.properties o).contains e.key = true
  given : ∃ before, s.WasGiven cs d o shared before

/-- The class of class objects, once a domain has one, has shared its members with every class
object that is to have them. -/
def SharesMembers : Prop :=
  ∀ m, (s.domain d).classOfClasses = some m → ∃ shared,
    (s.classAt m).instanceBindings = some shared ∧
      ∀ k, s.Receives d m k → s.HasMembers cs d (s.classAt k).object shared

end Store

section
variable {s t : Store} {cs ds : List ClassRef} {d : DomainRef} {o : ObjectRef} {shared : Bindings}

/-- What an object owned when members were shared with it, it still owns. -/
theorem Store.WasGiven.gains {before : PropertyTable} (h : s.WasGiven cs d o shared before) :
    before.Extends (s.properties o) := by
  obtain ⟨r, rs, t, c, descriptor, base, scope, x, linking, lt, old, run, stages, _, rfl, later⟩ := h
  exact (stages.extends_bound linking.agrees o).trans (later.gains (linking.linked lt old run) o)

theorem Store.HasMembers.later (h : s.HasMembers cs d o shared) (reached : Linking s cs)
    (step : LinkingStep (s, cs) (t, ds)) : t.HasMembers ds d o shared := by
  obtain ⟨before, r, rs, u, c, descriptor, base, scope, x, linking, lt, old, run, stages, given,
    same, later⟩ := h.given
  exact ⟨fun e he => (step.gains reached o).contains (h.owns e he), before, r, rs, u, c, descriptor,
    base, scope, x, linking, lt, old, run, stages, given, same, later.tail step⟩

/-- A class that is to have the members is linked. -/
theorem Store.Directs.mem_of_receives (h : s.Directs cs d) {m k : ClassRef}
    (receives : (s.domain d).rootClass = some k ∨
      ∃ pre post, (s.domain d).directory.classes = pre ++ m :: post ∧ k ∈ post) : k ∈ cs := by
  rcases receives with root | ⟨pre, post, classes, mem⟩
  · exact h.rootClass_linked root
  · exact h.linked k (classes ▸ List.mem_append_right _ (List.mem_cons_of_mem _ mem))

/-- A linked class is as it was after any operation. -/
theorem LinkingStep.classAt (step : LinkingStep (s, cs) (t, ds)) (linking : Linking s cs)
    {k : ClassRef} (hk : k ∈ cs) : t.classAt k = s.classAt k :=
  step.keeps.classAt k (linking.hierarchy.inside hk)

/-- An operation that enters no class in the directory. -/
theorem Store.SharesMembers.later (h : s.SharesMembers cs d) (linking : Linking s cs)
    (step : LinkingStep (s, cs) (t, ds))
    (same : t.domain d = { s.domain d with
      diagnostics := (t.domain d).diagnostics
      stats := (t.domain d).stats }) : t.SharesMembers ds d := by
  have directs := linking.directs d
  intro m remembered
  rw [same] at remembered
  obtain ⟨shared, bindings, all⟩ := h m remembered
  rw [step.classAt linking (directs.classOfClasses_linked remembered)]
  refine ⟨shared, bindings, fun k receives => ?_⟩
  rw [Receives, same] at receives
  have kept := step.classAt linking (directs.mem_of_receives (receives.imp_right And.right))
  rw [kept] at receives ⊢
  exact (all k receives).later linking step

end

/-! ### Entering a class -/

/-- What comes after an entry of a list that has got one entry more ends with that one. -/
theorem split_before_last {α : Type} {pre post xs : List α} {m c : α}
    (h : xs ++ [c] = pre ++ m :: post) (after : post ≠ []) :
    ∃ between, post = between ++ [c] ∧ xs = pre ++ m :: between := by
  obtain ⟨between, last, rfl⟩ := (List.eq_nil_or_concat post).resolve_left after
  rw [List.concat_eq_append, ← List.cons_append, ← List.append_assoc] at h
  obtain ⟨earlier, same⟩ := List.append_inj' h rfl
  obtain rfl := List.singleton_injective same
  exact ⟨between, List.concat_eq_append, earlier⟩

namespace LinkStages

variable {d : DomainRef} {descriptor : ClassDescriptor} {base : Option ClassRef} {scope : Scope}
  {s t : Store} {cs : List ClassRef} {c : ClassRef} {x : LinkTrace}

/-- What a link shares with an object, the object has afterwards. -/
theorem hasMembers (h : LinkStages d descriptor base scope s t c x) (linking : Linking s cs)
    (lt : d.index < s.domains.size) (old : ∀ b, base = some b → b ∈ cs)
    (run : exec (link d descriptor base scope) s = (.ok c, t)) {o : ObjectRef}
    {shared : Bindings} (given : x.bound.sharing? d c x.instances = some (shared, o))
    (inside : o.index < t.objects.size) : t.HasMembers (c :: cs) d o shared := by
  refine ⟨fun e he => ?_, x.bound.properties o, s, cs, t, c, descriptor, base, scope, x, linking,
    lt, old, run, h, given, rfl, .refl⟩
  rw [h.announced.objects_eq] at inside
  rw [h.properties_eq, shareClassMembers_run, given]
  show (((shared.applyTo d o .append).run x.bound).2.properties o).contains e.key = true
  rw [Bindings.properties_applyTo, if_pos ⟨rfl, inside⟩]
  exact shared.contains_applied .append (h.agrees_bound linking.agrees o) he

/-- A class that is to have the members of `m` was to have them before, or is the class that is
linked. -/
theorem receives_cases (h : LinkStages d descriptor base scope s t c x) (linking : Linking s cs)
    (lt : d.index < s.domains.size) {m k : ClassRef} (receives : t.Receives d m k) :
    k ∈ cs ∧ s.Receives d m k ∨ k = c ∧ (t.classAt c).kind ≠ .ofClasses := by
  have directs := linking.directs d
  rw [Store.Receives, h.domain lt] at receives
  dsimp only [Domain.enter, Directory.add] at receives
  rcases receives with root | ⟨kind, pre, post, classes, mem⟩
  · cases held : (s.domain d).rootClass with
    | none =>
      rw [held] at root
      split at root
      · rename_i isRoot
        obtain rfl := Option.some.inj root
        exact .inr ⟨rfl, by rw [isRoot]; exact ClassKind.noConfusion⟩
      · cases root
    | some r =>
      rw [held, Option.some_or, ite_self] at root
      obtain rfl := Option.some.inj root
      exact .inl ⟨directs.rootClass_linked held, .inl held⟩
  · -- the new class is the last of the directory
    obtain ⟨between, rfl, earlier⟩ := split_before_last classes (List.ne_nil_of_mem mem)
    rcases List.mem_append.mp mem with mem | mem
    · have linked : k ∈ cs := directs.mem_of_receives (.inr ⟨pre, between, earlier, mem⟩)
      rw [(h.keeps lt).classAt k (linking.hierarchy.inside linked)] at kind
      exact .inl ⟨linked, .inr ⟨kind, pre, between, earlier, mem⟩⟩
    · obtain rfl := List.mem_singleton.mp mem
      exact .inr ⟨rfl, kind⟩

/-- The first class of class objects shares with the root, and no class comes after it yet. -/
theorem receives_first (h : LinkStages d descriptor base scope s t c x) (linking : Linking s cs)
    (lt : d.index < s.domains.size) (kind : (t.classAt c).kind = .ofClasses) {k : ClassRef}
    (receives : t.Receives d c k) : (s.domain d).rootClass = some k := by
  rw [Store.Receives, h.domain lt] at receives
  dsimp only [Domain.enter, Directory.add] at receives
  rcases receives with root | ⟨_, pre, post, classes, mem⟩
  · rwa [if_neg (kind ▸ ClassKind.noConfusion)] at root
  · obtain ⟨between, _, earlier⟩ := split_before_last classes (List.ne_nil_of_mem mem)
    have old : c ∈ cs := by
      refine (linking.directs d).linked c ?_
      rw [earlier]
      exact List.mem_append_right _ List.mem_cons_self
    exact absurd (linking.hierarchy.inside old) h.begun.prepared.le.not_gt

/-- A link keeps members shared, whatever kind of class it links. -/
theorem sharesMembers (h : LinkStages d descriptor base scope s t c x) (linking : Linking s cs)
    (shares : s.SharesMembers cs d) (lt : d.index < s.domains.size)
    (old : ∀ b, base = some b → b ∈ cs)
    (run : exec (link d descriptor base scope) s = (.ok c, t)) : t.SharesMembers (c :: cs) d := by
  have step : LinkingStep (s, cs) (t, c :: cs) := .linked lt old run
  have directs := linking.directs d
  have sharing := h.sharing?_eq lt linking
  have inside : ∀ k ∈ c :: cs, (t.classAt k).object.index < t.objects.size := fun k hk => by
    obtain ⟨_, _, finished⟩ := (linking.linked lt old run).hierarchy.finished k hk
    exact finished.object_inside
  intro m remembered
  rw [h.domain lt] at remembered
  dsimp only [Domain.enter] at remembered
  cases held : (s.domain d).classOfClasses with
  | some m' =>
    rw [held, Option.some_or, ite_self] at remembered
    obtain rfl := Option.some.inj remembered
    obtain ⟨shared, bindings, all⟩ := shares m' held
    refine ⟨shared, ?_, fun k receives => ?_⟩
    · rw [step.classAt linking (directs.classOfClasses_linked held)]
      exact bindings
    rcases h.receives_cases linking lt receives with ⟨mem, before⟩ | ⟨rfl, kind⟩
    · rw [step.classAt linking mem]
      exact (all k before).later linking step
    · -- the new class takes the members
      rw [if_neg kind, held, Option.bind_some, bindings, Option.map_some] at sharing
      exact h.hasMembers linking lt old run sharing (inside k List.mem_cons_self)
  | none =>
    rw [held] at remembered
    split at remembered
    · rename_i kind
      obtain rfl := Option.some.inj remembered
      refine ⟨x.instances, by rw [h.classAt lt], fun k receives => ?_⟩
      -- the new class gives its members to the root
      have root := h.receives_first linking lt kind receives
      have mem := directs.rootClass_linked root
      rw [if_pos kind, root, Option.map_some, ← step.classAt linking mem] at sharing
      exact h.hasMembers linking lt old run sharing (inside k (List.mem_cons_of_mem _ mem))
    · cases remembered

end LinkStages

/-- In a store reached by linking the members of class objects are shared in every domain. -/
theorem Linking.sharesMembers {s : Store} {cs : List ClassRef} (h : Linking s cs) (d : DomainRef) :
    s.SharesMembers cs d := by
  induction h with
  | start natives => exact fun _ remembered => by cases remembered
  | @domain s cs options synthesizer h ih =>
    have opened := domain_newDomain options synthesizer s d
    by_cases last : d.index = s.domains.size
    · intro m remembered
      rw [opened, if_pos last] at remembered
      cases remembered
    · rw [if_neg last] at opened
      exact ih.later h (.domain options synthesizer) (by rw [opened])
  | @register s t cs definition h run ih =>
    refine ih.later h (.register run) ?_
    obtain ⟨natives, log, rfl⟩ := store_registerNative run
    rfl
  | @linked s t cs d' descriptor base scope c h lt old run ih =>
    obtain ⟨x, stages⟩ := linkStages_of_link lt run
    by_cases same : d = d'
    · subst same
      exact stages.sharesMembers h ih lt old run
    · exact ih.later h (.linked lt old run) (by rw [stages.domain_ne lt same])
  | @failed s t cs d' descriptor base scope e h lt old run ih =>
    exact ih.later h (.failed lt old run) ((confined_of_failed_link lt run).settings d)

/-- **Members of class objects.** In every store reached by linking, a domain that has a class of
class objects has shared its members with every class object that is to have them: the object owns
every key of the table, and what it owned when the table was shared with it, it still owns. -/
theorem sharedMembers_of_linking {s : Store} {cs : List ClassRef} (h : Linking s cs) {d : DomainRef}
    {m : ClassRef} (remembered : (s.domain d).classOfClasses = some m) : ∃ shared,
    (s.classAt m).instanceBindings = some shared ∧ ∀ k, s.Receives d m k →
      s.HasMembers cs d (s.classAt k).object shared ∧
      ∀ before, s.WasGiven cs d (s.classAt k).object shared before →
        ∀ key p, before.get? key = some p →
          (s.properties (s.classAt k).object).get? key = some p := by
  obtain ⟨shared, bindings, all⟩ := h.sharesMembers d m remembered
  exact ⟨shared, bindings, fun k receives =>
    ⟨all k receives, fun before given key p owned => given.gains.get? owned⟩⟩

namespace Sample

/-- The store with the class of class objects, and then the root. -/
def classFirst : Store := (exec linkObject (exec (linkClass none) founded).2).2

theorem linking_classFirst : Linking classFirst [⟨1⟩, ⟨0⟩] := by
  have first : Linking (exec (linkClass none) founded).2 [⟨0⟩] :=
    .linked (.domain .standard .inert (.start _)) (by decide +kernel) (by simp)
      (exec_eq_of_toOption (x := linkClass none) (by decide +kernel))
  exact .linked first (by decide +kernel) (by simp)
    (exec_eq_of_toOption (x := linkObject) (by decide +kernel))

end Sample

/-- The root is linked after the class of class objects, and its class object has the method. -/
theorem sharedMembers_of_linking_classFirst : ∃ shared,
    (Sample.classFirst.classAt ⟨0⟩).instanceBindings = some shared ∧
      Sample.classFirst.HasMembers [⟨1⟩, ⟨0⟩] ⟨0⟩ (Sample.classFirst.classAt ⟨1⟩).object shared ∧
      (Sample.classFirst.properties (Sample.classFirst.classAt ⟨1⟩).object).contains "describe" := by
  obtain ⟨shared, bindings, all⟩ := sharedMembers_of_linking Sample.linking_classFirst
    (d := ⟨0⟩) (m := ⟨0⟩) (by decide +kernel)
  exact ⟨shared, bindings, (all ⟨1⟩ (.inl (by decide +kernel))).1, by decide +kernel⟩

end ClassLink
