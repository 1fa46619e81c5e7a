import ClassLink.Proofs.Calls
import ClassLink.Proofs.Isolation

/-!
# The directory reflects the requests

A domain is asked to link one class after the other, and some requests fail. Its directory tells
what came of them: it lists the classes that were linked in the order of the requests, finds the
latest one under each key, and the domain remembers the first root class and the first class of
class objects (`Store.Reflects`). A request that fails leaves no trace in it, wherever it fails.

Between two requests anything may happen that leaves the domain alone and the descriptors of classes
(`Store.LeavesDomain`): programs run, and other domains link.
-/

namespace ClassLink

/-! ### Requests -/

/-- A class that is to be linked. -/
structure LinkRequest where
  descriptor : ClassDescriptor
  base : Option ClassRef
  scope : Scope

namespace LinkRequest

/-- Link the class. -/
def run (x : LinkRequest) (d : DomainRef) (s : Store) : Except Fault ClassRef × Store :=
  exec (link d x.descriptor x.base x.scope) s

/-- The key under which the class is to be found. -/
def key (x : LinkRequest) : String := x.descriptor.name.key

end LinkRequest

/-- A request, and what it came to. -/
structure Attempt where
  request : LinkRequest
  outcome : Except Fault ClassRef

/-- The classes that came of requests, in order, each with the request for it. -/
def linkedOf (xs : List Attempt) : List (LinkRequest × ClassRef) :=
  xs.filterMap fun x => x.outcome.toOption.map (x.request, ·)

/-- What a domain has linked is left alone, and the descriptors of classes are. -/
structure Store.LeavesDomain (s t : Store) (d : DomainRef) : Prop where
  classes_le : s.classes.size ≤ t.classes.size
  domains_le : s.domains.size ≤ t.domains.size
  descriptor : ∀ c : ClassRef, c.index < s.classes.size →
    (t.classAt c).descriptor = (s.classAt c).descriptor
  nativeId : ∀ c : ClassRef, c.index < s.classes.size →
    (t.classAt c).nativeId = (s.classAt c).nativeId
  settings : t.domain d =
    { s.domain d with diagnostics := (t.domain d).diagnostics, stats := (t.domain d).stats }

/-- Requests are made of a domain one after the other, whether they succeed or not. -/
inductive Requests (d : DomainRef) (s : Store) : List Attempt → Store → Prop
  /-- Before the first request. -/
  | start : Requests d s [] s
  /-- One request more. -/
  | request {xs : List Attempt} {t : Store} :
      Requests d s xs t → (x : LinkRequest) →
        Requests d s (xs ++ [⟨x, (x.run d t).1⟩]) (x.run d t).2
  /-- Something else happens. -/
  | meanwhile {xs : List Attempt} {t u : Store} :
      Requests d s xs t → t.LeavesDomain u d → Requests d s xs u

variable {d : DomainRef} {s t u : Store} {xs ys : List Attempt}

/-! ### What leaves a domain alone -/

theorem Store.Keeps.leavesDomain (h : s.Keeps t) (settings : t.domain d = { s.domain d with
      diagnostics := (t.domain d).diagnostics
      stats := (t.domain d).stats }) : s.LeavesDomain t d :=
  ⟨h.classes_le, h.domains_le, fun c inside => by rw [h.classAt c inside],
    fun c inside => by rw [h.classAt c inside], settings⟩

/-- A program runs. -/
theorem leavesDomain_call (d : DomainRef) (f : FunctionRef) (this : Value) (args : List Value)
    (s : Store) : s.LeavesDomain (exec (call f this args) s).2 d := by
  have confined := (effect_call f this args s).confined
  have classes : ∀ c : ClassRef, c.index < s.classes.size →
      (exec (call f this args) s).2.classAt c = s.classAt c := fun c inside =>
    confined.classAt c inside (Set.notMem_empty c)
  exact ⟨confined.classes_le, confined.domains_eq.ge, fun c inside => by rw [classes c inside],
    fun c inside => by rw [classes c inside], confined.settings d⟩

/-- A request fails. -/
theorem leavesDomain_of_failed_link {x : LinkRequest} {e : Fault} (lt : d.index < s.domains.size)
    (run : x.run d s = (.error e, t)) : s.LeavesDomain t d :=
  (keeps_of_failed_link lt run).leavesDomain ((confined_of_failed_link lt run).settings d)

/-- Another domain links. -/
theorem leavesDomain_of_ne {d' : DomainRef} (ne : d ≠ d') (lt : d'.index < s.domains.size)
    (x : LinkRequest) : s.LeavesDomain (x.run d' s).2 d := by
  rcases run : x.run d' s with ⟨e | c, t⟩
  · exact (keeps_of_failed_link lt run).leavesDomain ((confined_of_failed_link lt run).settings d)
  · obtain ⟨z, stages⟩ := linkStages_of_link lt run
    refine (stages.keeps lt).leavesDomain ?_
    rw [stages.domain_ne lt ne]

/-! ### What came of the requests -/

/-- The directory tells what came of the requests: the classes that were linked, in order. -/
structure Store.Reflects (s : Store) (d : DomainRef) (made : List (LinkRequest × ClassRef)) : Prop
    extends s.Directs (made.map (·.2)) d where
  /-- Each class was made for its request. -/
  fits : ∀ p ∈ made, p.2.index < s.classes.size ∧
    (s.classAt p.2).descriptor = p.1.descriptor ∧
    (s.classAt p.2).nativeId = p.1.descriptor.nativeId
  /-- The classes are listed in the order of the requests. -/
  classes : (s.domain d).directory.classes = made.map (·.2)
  /-- Under a key the latest one is found. -/
  found : ∀ key, (s.domain d).directory.find? key =
    (made.filter (·.1.key = key)).getLast?.map (·.2)

/-- The host class decides the kind. -/
theorem Class.kind_congr {k l : Class} (h : k.nativeId = l.nativeId) : k.kind = l.kind := by
  rw [kind, kind, h]

namespace Store.Reflects

variable {made more : List (LinkRequest × ClassRef)}

theorem of_unused (h : (s.domain d).Unused) : s.Reflects d [] := by
  refine { Store.Directs.of_unused h with fits := ?_, classes := ?_, found := ?_ }
  · exact fun _ hp => absurd hp List.not_mem_nil
  · rw [h.directory]
    rfl
  · rw [h.directory]
    exact fun _ => rfl

/-- The kinds of the classes are told by the requests. -/
theorem kinds (h : s.Reflects d made) (k : t.Reflects d (made ++ more)) :
    ∀ c ∈ made.map (·.2), (t.classAt c).kind = (s.classAt c).kind := by
  intro c hc
  obtain ⟨p, hp, rfl⟩ := List.mem_map.mp hc
  have later := k.fits p (List.mem_append_left _ hp)
  exact Class.kind_congr (later.2.2.trans (h.fits p hp).2.2.symm)

/-- The domain is left alone. -/
theorem later (h : s.Reflects d made) (k : s.LeavesDomain t d) : t.Reflects d made := by
  have kinds : ∀ c ∈ made.map (·.2), (t.classAt c).kind = (s.classAt c).kind := by
    intro c hc
    obtain ⟨p, hp, rfl⟩ := List.mem_map.mp hc
    exact Class.kind_congr (k.nativeId p.2 (h.fits p hp).1)
  refine { h.toDirects.keeps kinds k.settings fun _ hc => hc with
    fits := ?_, classes := ?_, found := ?_ }
  · intro p hp
    obtain ⟨inside, descriptor, nativeId⟩ := h.fits p hp
    exact ⟨inside.trans_le k.classes_le, (k.descriptor p.2 inside).trans descriptor,
      (k.nativeId p.2 inside).trans nativeId⟩
  · rw [k.settings]
    exact h.classes
  · rw [k.settings]
    exact h.found

/-- A class is linked. -/
theorem enter {x : LinkRequest} {c : ClassRef} (h : s.Reflects d made)
    (lt : d.index < s.domains.size) (run : x.run d s = (.ok c, t)) :
    t.Reflects d (made ++ [(x, c)]) := by
  obtain ⟨z, stages⟩ := linkStages_of_link lt run
  have keeps := stages.keeps lt
  have entered := stages.domain lt
  have kinds : ∀ k ∈ made.map (·.2), (t.classAt k).kind = (s.classAt k).kind := by
    intro k hk
    obtain ⟨p, hp, rfl⟩ := List.mem_map.mp hk
    rw [keeps.classAt p.2 (h.fits p hp).1]
  have directs : t.Directs ((made ++ [(x, c)]).map (·.2)) d := by
    refine (h.toDirects.enter kinds entered).keeps (fun _ _ => rfl) rfl fun k hk => ?_
    rw [List.map_append, List.mem_append]
    exact (List.mem_cons.mp hk).symm.imp id List.mem_singleton.mpr
  have descriptor : (t.classAt c).descriptor = x.descriptor := by
    rw [stages.classAt lt, stages.created.classAt]
    exact stages.begun.prepared.descriptor
  have nativeId : (t.classAt c).nativeId = x.descriptor.nativeId := by
    rw [stages.classAt lt, stages.created.classAt]
    exact stages.begun.prepared.nativeId
  refine { directs with fits := ?_, classes := ?_, found := ?_ }
  · intro p hp
    rcases List.mem_append.mp hp with old | new
    · obtain ⟨inside, fits⟩ := h.fits p old
      rw [keeps.classAt p.2 inside]
      exact ⟨inside.trans_le keeps.classes_le, fits⟩
    · obtain rfl := List.mem_singleton.mp new
      exact ⟨stages.inside lt, descriptor, nativeId⟩
  · rw [entered, List.map_append, ← h.classes]
    rfl
  · intro key
    have named : (t.classAt c).key = x.key := congrArg (·.name.key) descriptor
    rw [entered, List.filter_append]
    show ((s.domain d).directory.add (t.classAt c).key c).find? key = _
    rw [h.places.find?_add, named, h.found]
    by_cases same : x.key = key
    · simp [same]
    · simp [same, Ne.symm same]

/-- A class that a domain remembers is remembered however many requests follow. -/
theorem remembers (h : s.Reflects d made) (k : t.Reflects d (made ++ more)) (c : ClassRef) :
    ((s.domain d).rootClass = some c → (t.domain d).rootClass = some c) ∧
      ((s.domain d).classOfClasses = some c → (t.domain d).classOfClasses = some c) := by
  have first : ∀ kind, (s.domain d).directory.classes.find?
        (fun c => (s.classAt c).kind = kind) = some c →
      (t.domain d).directory.classes.find? (fun c => (t.classAt c).kind = kind) = some c := by
    intro kind remembered
    rw [k.classes, List.map_append, List.find?_append, ← h.classes,
      h.find?_kind (h.kinds k) kind, remembered, Option.some_or]
  rw [h.rootClass, k.rootClass, h.classOfClasses, k.classOfClasses]
  exact ⟨first .root, first .ofClasses⟩

end Store.Reflects

/-! ### Runs -/

theorem linkedOf_append (xs ys : List Attempt) : linkedOf (xs ++ ys) = linkedOf xs ++ linkedOf ys :=
  List.filterMap_append ..

theorem Requests.inside (h : Requests d s xs t) (lt : d.index < s.domains.size) :
    d.index < t.domains.size := by
  induction h with
  | start => exact lt
  | @request xs t _ x ih =>
    rcases run : x.run d t with ⟨e | c, u⟩
    · exact ih.trans_le (leavesDomain_of_failed_link ih run).domains_le
    · obtain ⟨z, stages⟩ := linkStages_of_link ih run
      exact ih.trans_le (stages.keeps ih).domains_le
  | meanwhile _ leaves ih => exact ih.trans_le leaves.domains_le

/-- Whatever the directory reflects, requests add what comes of them. -/
theorem Store.Reflects.requests {made : List (LinkRequest × ClassRef)} (h : s.Reflects d made)
    (lt : d.index < s.domains.size) (k : Requests d s xs t) :
    t.Reflects d (made ++ linkedOf xs) := by
  induction k with
  | start => rwa [linkedOf, List.filterMap_nil, List.append_nil]
  | @request xs t before x ih =>
    have inside := before.inside lt
    rw [linkedOf_append, ← List.append_assoc]
    rcases run : x.run d t with ⟨e | c, u⟩
    · have refused := ih.later (leavesDomain_of_failed_link inside run)
      rwa [← List.append_nil (made ++ linkedOf xs)] at refused
    · exact ih.enter inside run
  | meanwhile _ leaves ih => exact ih.later leaves

/-- **The directory reflects the requests.** A domain that has linked nothing is asked to link
classes, and other things happen in between. Then its directory tells what came of the requests, and
the root class and the class of class objects that it remembers are remembered whatever is asked of
it later. -/
theorem Requests.reflects (unused : (s.domain d).Unused) (lt : d.index < s.domains.size)
    (h : Requests d s xs t) :
    t.Reflects d (linkedOf xs) ∧ ∀ ys u, Requests d t ys u →
      u.Reflects d (linkedOf xs ++ linkedOf ys) ∧ ∀ c,
        ((t.domain d).rootClass = some c → (u.domain d).rootClass = some c) ∧
        ((t.domain d).classOfClasses = some c → (u.domain d).classOfClasses = some c) := by
  have now : t.Reflects d (linkedOf xs) := (Store.Reflects.of_unused unused).requests lt h
  refine ⟨now, fun ys u more => ?_⟩
  have later := now.requests (h.inside lt) more
  exact ⟨later, now.remembers later⟩

/-! ### Two roots and a failure -/

namespace Sample

/-- A root class. -/
def rootRequest : LinkRequest :=
  ⟨{ ClassDescriptor.bare "Object" with nativeId := some Builtins.objectClassId }, none,
    .global ⟨0⟩⟩

/-- A class whose host class is not registered. -/
def missingRequest : LinkRequest :=
  ⟨{ ClassDescriptor.bare "Missing" with nativeId := some "MissingClass" }, none, .global ⟨0⟩⟩

/-- A second domain is opened beside the first. -/
def twinned : Store := ((newDomain .standard .inert).run founded).2

end Sample

/-- The second root is found under the name of both, and the first one is remembered. Between the
requests another domain links a root of its own, and a function is called. -/
theorem reflects_two_roots : ∃ xs t,
    Requests ⟨0⟩ Sample.twinned xs t ∧
      xs.map (·.request.key) = ["Object", "Missing", "Object"] ∧ t.Reflects ⟨0⟩ (linkedOf xs) ∧
      (t.domain ⟨0⟩).directory.classes = [⟨0⟩, ⟨2⟩] ∧
      (t.domain ⟨0⟩).directory.find? "Object" = some ⟨2⟩ ∧
      (t.domain ⟨0⟩).rootClass = some ⟨0⟩ := by
  have inside : 0 < Sample.twinned.domains.size := by decide +kernel
  have first : Requests ⟨0⟩ Sample.twinned _ _ := Requests.start.request Sample.rootRequest
  have apart : (⟨0⟩ : DomainRef) ≠ ⟨1⟩ := by decide
  have other := first.meanwhile
    (leavesDomain_of_ne apart (by decide +kernel) Sample.rootRequest)
  have failed := other.request Sample.missingRequest
  have called := failed.meanwhile (leavesDomain_call ⟨0⟩ ⟨0⟩ .undefined [] _)
  have run := called.request Sample.rootRequest
  have unused : (Sample.twinned.domain ⟨0⟩).Unused :=
    ⟨by decide +kernel, by decide +kernel, by decide +kernel⟩
  exact ⟨_, _, run, by decide +kernel, (Requests.reflects unused inside run).1,
    by decide +kernel, by decide +kernel, by decide +kernel⟩

end ClassLink
