import ClassLink.Proofs.Chains
import Mathlib.Data.PFun

/-!
# Loops that follow links

The walks along delegation and bases are bounded by the number of objects, or of classes. Here they
are loops without a bound, which may go on for ever: `Chain.search` remembers the points that it
passes and stops when it comes to one again, `Chain.seek` remembers nothing and stops at the first
point that has an answer.

The search always stops, since a store has no room for a chain that neither ends nor comes back, and
it tells which of the two the chain does (`search_decides`). On a chain that comes to an end a seek
stops as well. There delegation is a strict order in which all the ancestors of an object lie one
above the other, and a key means the property of the first object in this order that owns it
(`delegatesInOrder_of_ends`). The loops give the same answers as the bounded walks.
-/

namespace ClassLink

namespace Chain

variable {α β : Type} {next : α → Option α} {f : α → Option β} {a b c : α} {p : β}

/-! ### Loops -/

section
variable {σ : Type} {step : σ → β ⊕ σ} {x y : σ} {r : β}

/-- A loop without a bound. A step answers, or goes on from another state; a loop that goes on for
ever has no answer. -/
def loop (step : σ → β ⊕ σ) : σ →. β := PFun.fix fun x => Part.some (step x)

theorem loop_of_answer (h : step x = .inl r) : loop step x = .some r :=
  Part.eq_some_iff.mpr (PFun.fix_stop (h ▸ Part.mem_some _))

theorem loop_of_step (h : step x = .inr y) : loop step x = loop step y :=
  PFun.fix_fwd_eq (h ▸ Part.mem_some _)

end

/-! ### Searching for the end -/

section
variable [DecidableEq α] {seen : List α}

/-- A step of the search: it comes to the end, back to a point of `seen`, or passes another one. -/
def searchStep (next : α → Option α) : List α × Option α → Bool ⊕ List α × Option α
  | (_, none) => .inl true
  | (seen, some a) => if a ∈ seen then .inl false else .inr (a :: seen, next a)

/-- Whether a walk that starts with a link comes to an end before it comes to a point of `seen`, or
to one that it has passed. -/
def search (next : α → Option α) (seen : List α) (link : Option α) : Part Bool :=
  loop (searchStep next) (seen, link)

theorem search_none (next : α → Option α) (seen : List α) : search next seen none = .some true :=
  loop_of_answer rfl

theorem search_of_mem (h : a ∈ seen) : search next seen (some a) = .some false :=
  loop_of_answer (if_pos h)

theorem search_of_notMem (h : a ∉ seen) :
    search next seen (some a) = search next (a :: seen) (next a) :=
  loop_of_step (if_neg h)

end

/-- So many steps lead to a point without successor. -/
theorem ends_iff_walk : Ends next a ↔ ∃ n b, walk next n a = some b ∧ next b = none := by
  constructor
  · intro h
    induction h with
    | last none => exact ⟨0, _, rfl, none⟩
    | step step _ ih =>
      obtain ⟨n, b, hn, none⟩ := ih
      exact ⟨n + 1, b, by rw [walk, step]; exact hn, none⟩
  · rintro ⟨n, b, hn, none⟩
    induction n generalizing a with
    | zero =>
      obtain rfl := Option.some.inj hn
      exact .last none
    | succ n ih =>
      obtain ⟨x, step, rest⟩ := Option.bind_eq_some_iff.mp hn
      exact .step step (ih rest)

/-- An answer to whether the chain of a point comes to an end. The search stops with it; yes means
that some steps lead to a point without successor, no means that the chain runs into itself, at the
point where it starts or further on. -/
structure Decides [DecidableEq α] (next : α → Option α) (a : α) (answer : Bool) : Prop where
  found : search next [a] (next a) = .some answer
  yes : answer = true ↔ ∃ n b, walk next n a = some b ∧ next b = none
  no : answer = false ↔ ∃ b, Reaches next a b ∧ Above next b b

section
variable [DecidableEq α] {index : α → Nat} {bound : Nat}

/-- The search stops. It has come to the end of the chain, or back to a point of it. -/
theorem Passed.search_eq (bounded : ∀ a b, next a = some b → index a < bound)
    (injective : Function.Injective index) {n : Nat} {seen : List α}
    (h : Passed next bound n seen a) :
    search next seen (some a) = .some true ∧ Ends next a ∨
      search next seen (some a) = .some false ∧ ∃ b, Reaches next a b ∧ Above next b b := by
  -- `n` steps are left, and there are no more points to pass than that
  induction n generalizing seen a with
  | zero =>
    have le := h.length_le bounded injective
    have enough := h.enough
    omega
  | succ n ih =>
    by_cases again : a ∈ seen
    · exact .inr ⟨search_of_mem again, a, .refl, h.below a again⟩
    · rw [search_of_notMem again]
      cases step : next a with
      | none => exact .inl ⟨search_none .., .last step⟩
      | some b =>
        rcases ih (h.step again step) with ⟨found, ends⟩ | ⟨found, c, up, loop⟩
        · exact .inl ⟨found, .step step ends⟩
        · exact .inr ⟨found, c, up.head step, loop⟩

/-- A chain in a finite store comes to an end or runs into itself, and the search tells which. -/
theorem decides_ends (bounded : ∀ a b, next a = some b → index a < bound)
    (injective : Function.Injective index) (a : α) : Decides next a (ends next bound a) := by
  have stops : search next [a] (next a) = .some true ∧ Ends next a ∨
      search next [a] (next a) = .some false ∧ ∃ b, Reaches next a b ∧ Above next b b := by
    cases step : next a with
    | none => exact .inl ⟨search_none .., .last step⟩
    | some b =>
      have passed : Passed next bound bound [a] b :=
        ⟨List.nodup_singleton a, fun x hx => List.mem_singleton.mp hx ▸ .next step, rfl⟩
      rcases passed.search_eq bounded injective with ⟨found, ends⟩ | ⟨found, c, up, loop⟩
      · exact .inl ⟨found, .step step ends⟩
      · exact .inr ⟨found, c, up.head step, loop⟩
  have apart : Ends next a → ¬∃ b, Reaches next a b ∧ Above next b b :=
    fun ends ⟨_, up, loop⟩ => (ends.reaches up).irrefl loop
  rcases stops with ⟨found, stop⟩ | ⟨found, cycle⟩
  · have answer : ends next bound a = true := (ends_iff bounded injective).mpr stop
    rw [answer]
    exact ⟨found, iff_of_true rfl (ends_iff_walk.mp stop), iff_of_false nofun (apart stop)⟩
  · have answer : ends next bound a = false :=
      Bool.eq_false_iff.mpr fun yes => apart ((ends_iff bounded injective).mp yes) cycle
    rw [answer]
    refine ⟨found, iff_of_false nofun fun stop => ?_, iff_of_true rfl cycle⟩
    exact apart (ends_iff_walk.mpr stop) cycle

end

/-! ### Seeking an answer -/

/-- A step of a seek: the point has an answer, or it is passed by. -/
def seekStep (next : α → Option α) (f : α → Option β) : Option α → Option β ⊕ Option α
  | none => .inl none
  | some a =>
    match f a with
    | some b => .inl (some b)
    | none => .inr (next a)

/-- The answer of the first point that has one, on a walk that starts with a link, and `none` if the
walk comes to an end before. -/
def seek (next : α → Option α) (f : α → Option β) : Option α →. Option β := loop (seekStep next f)

theorem seek_none (next : α → Option α) (f : α → Option β) : seek next f none = .some none :=
  loop_of_answer rfl

theorem seek_of_answer (h : f a = some p) : seek next f (some a) = .some (some p) :=
  loop_of_answer (by rw [seekStep, h])

theorem seek_of_silent (h : f a = none) : seek next f (some a) = seek next f (next a) :=
  loop_of_step (by rw [seekStep, h])

/-- The first point of a chain that has an answer: every other one that has is reached from it. -/
structure First (next : α → Option α) (f : α → Option β) (a b : α) : Prop where
  reached : Reaches next a b
  answers : (f b).isSome
  first : ∀ c, Reaches next a c → (f c).isSome → Reaches next b c

/-- A point that has an answer is the first one on its own chain. -/
theorem First.self (h : f a = some p) : First next f a a :=
  ⟨.refl, by rw [h]; rfl, fun _ up _ => up⟩

theorem First.unique (ends : Ends next a) (h : First next f a b) (k : First next f a c) : b = c :=
  (ends.reaches h.reached).antisymm (h.first c k.reached k.answers) (k.first b h.reached h.answers)

/-- What a point without an answer reaches, and that has one, is reached from its successor. -/
theorem reaches_iff_of_answer (step : next a = some b) (silent : f a = none)
    (answers : (f c).isSome) : Reaches next a c ↔ Reaches next b c := by
  refine ⟨fun up => ?_, .head step⟩
  rcases reaches_iff.mp up with rfl | up
  · rw [silent] at answers
    cases answers
  · exact up.reaches step

/-- A point without an answer is passed by. -/
theorem first_iff_of_step (step : next a = some b) (silent : f a = none) :
    First next f a c ↔ First next f b c := by
  constructor
  · intro ⟨reached, answers, first⟩
    refine ⟨(reaches_iff_of_answer step silent answers).mp reached, answers, ?_⟩
    exact fun x up hx => first x (up.head step) hx
  · intro ⟨reached, answers, first⟩
    refine ⟨reached.head step, answers, fun x up hx => ?_⟩
    exact first x ((reaches_iff_of_answer step silent hx).mp up) hx

/-- On a chain that comes to an end a seek stops with the answer of the first point that has one. -/
theorem seek_eq_some_iff (ends : Ends next a) :
    seek next f (some a) = .some (some p) ↔ ∃ b, First next f a b ∧ f b = some p := by
  -- the seek stops at a point that has an answer, wherever the chain leads from there
  have stops : ∀ {x q}, Ends next x → f x = some q →
      (seek next f (some x) = .some (some p) ↔ ∃ b, First next f x b ∧ f b = some p) := by
    intro x q ends answer
    rw [seek_of_answer answer, Part.some_inj]
    constructor
    · intro same
      obtain rfl := Option.some.inj same
      exact ⟨x, .self answer, answer⟩
    · rintro ⟨b, first, found⟩
      obtain rfl := First.unique ends first (.self answer)
      rw [← found, answer]
  induction ends with
  | @last a none =>
    cases answer : f a with
    | some q => exact stops (.last none) answer
    | none =>
      rw [seek_of_silent answer, none, seek_none, Part.some_inj]
      refine iff_of_false nofun ?_
      rintro ⟨b, first, found⟩
      rcases reaches_iff.mp first.reached with rfl | up
      · cases answer.symm.trans found
      · cases up with
        | next step => cases none.symm.trans step
        | step step _ => cases none.symm.trans step
  | @step a b step rest ih =>
    cases answer : f a with
    | some q => exact stops (.step step rest) answer
    | none =>
      rw [seek_of_silent answer, step]
      simp only [ih, first_iff_of_step step answer]

section
variable {index : α → Nat} {bound : Nat}

/-- A seek along a chain that comes to an end gives what a walk finds that has a step left for each
point of the chain. -/
theorem Passed.seek_eq (bounded : ∀ a b, next a = some b → index a < bound)
    (injective : Function.Injective index) (ends : Ends next a) {n : Nat} {seen : List α}
    (h : Passed next bound (n + 1) seen a) :
    seek next f (some a) = .some ((a :: after next n a).findSome? f) := by
  induction ends generalizing n seen with
  | @last a none =>
    have walk : after next n a = [] := by cases n <;> simp [after, none]
    rw [walk, List.findSome?_cons]
    cases answer : f a with
    | some q => exact seek_of_answer answer
    | none => rw [seek_of_silent answer, none, seek_none, List.findSome?_nil]
  | @step a b step rest ih =>
    obtain ⟨new, _⟩ := h.new bounded injective (.step step rest)
    have later := h.step new step
    obtain ⟨_, n, rfl⟩ := later.new bounded injective rest
    rw [after, step, List.findSome?_cons]
    cases answer : f a with
    | some q => exact seek_of_answer answer
    | none =>
      rw [seek_of_silent answer, step]
      exact ih later

/-- A seek along a chain that comes to an end gives what the bounded walk finds. -/
theorem seek_self (bounded : ∀ a b, next a = some b → index a < bound)
    (injective : Function.Injective index) (ends : Ends next a) :
    seek next f (some a) = .some ((a :: after next bound a).findSome? f) := by
  have passed : Passed next bound (bound + 1) [] a :=
    ⟨List.nodup_nil, fun _ hx => absurd hx List.not_mem_nil, rfl⟩
  exact passed.seek_eq bounded injective ends

/-- And so it does if it starts above the point. -/
theorem seek_next (bounded : ∀ a b, next a = some b → index a < bound)
    (injective : Function.Injective index) (ends : Ends next a) :
    seek next f (next a) = .some ((after next bound a).findSome? f) := by
  cases ends with
  | last none =>
    have walk : after next bound a = [] := by cases bound <;> simp [after, none]
    rw [walk, none, seek_none, List.findSome?_nil]
  | @step _ b step rest =>
    have passed : Passed next bound bound [a] b :=
      ⟨List.nodup_singleton a, fun x hx => List.mem_singleton.mp hx ▸ .next step, rfl⟩
    obtain ⟨_, n, rfl⟩ := passed.new bounded injective rest
    rw [after, step]
    exact passed.seek_eq bounded injective rest

end

end Chain

namespace Store

/-- **Whether a chain comes to an end**, of objects and of classes. The search stops, and its answer
is right. -/
theorem search_decides (s : Store) :
    (∀ o, Chain.Decides s.parent o (s.delegationEnds o)) ∧
      ∀ c, Chain.Decides s.base c (s.basesEnd c) :=
  ⟨Chain.decides_ends (fun _ _ => s.index_lt_of_parent) fun _ _ => congrArg ObjectRef.mk,
    Chain.decides_ends (fun _ _ => s.index_lt_of_base) fun _ _ => congrArg ClassRef.mk⟩

/-! ### The order of delegation -/

/-- The loop that looks for an object among those that another one delegates to. -/
def inheritsLoop (s : Store) (o a : ObjectRef) : Part Bool :=
  (Chain.seek s.parent (fun x => if x = a then some () else none) (s.parent o)).map Option.isSome

/-- The loop that looks for the property that a key means. -/
def lookupLoop (s : Store) (o : ObjectRef) (key : String) : Part (Option Property) :=
  Chain.seek s.parent (fun x => (s.properties x).get? key) (some o)

/-- Of the object and those it delegates to, `x` is the nearest one that owns the key. -/
def Nearest (s : Store) (o : ObjectRef) (key : String) (x : ObjectRef) : Prop :=
  Chain.First s.parent (fun x => (s.properties x).get? key) o x

/-- An object delegates to others in a strict order, which its keys follow. The two loops stop. -/
structure DelegatesInOrder (s : Store) (o : ObjectRef) : Prop where
  inheritsLoop : ∀ a, s.inheritsLoop o a = .some (s.inheritsFrom o a)
  steps : ∀ a, s.inheritsFrom o a = true ↔ ∃ n, Chain.walk s.parent (n + 1) o = some a
  irrefl : s.inheritsFrom o o = false
  trans : ∀ a b, s.inheritsFrom o a = true → s.inheritsFrom a b = true → s.inheritsFrom o b = true
  comparable : ∀ a b, s.inheritsFrom o a = true → s.inheritsFrom o b = true →
    a = b ∨ s.inheritsFrom a b = true ∨ s.inheritsFrom b a = true
  lookupLoop : ∀ key, s.lookupLoop o key = .some (s.lookup o key)
  own : ∀ key p, (s.properties o).get? key = some p → s.lookup o key = some p
  nearest : ∀ key p, s.lookup o key = some p ↔
    ∃ x, s.Nearest o key x ∧ (s.properties x).get? key = some p
  missing : ∀ key, s.lookup o key = none ↔ (s.properties o).get? key = none ∧
    ∀ a, s.inheritsFrom o a = true → (s.properties a).get? key = none
  hasProperty : ∀ key, s.hasProperty o key = true ↔ (s.properties o).contains key = true ∨
    ∃ a, s.inheritsFrom o a = true ∧ (s.properties a).contains key = true

variable {s : Store} {o : ObjectRef}

theorem lookupLoop_eq (ends : Chain.Ends s.parent o) (key : String) :
    s.lookupLoop o key = .some (s.lookup o key) :=
  Chain.seek_self (fun _ _ => s.index_lt_of_parent) (fun _ _ => congrArg ObjectRef.mk) ends

theorem inheritsLoop_eq (ends : Chain.Ends s.parent o) (a : ObjectRef) :
    s.inheritsLoop o a = .some (s.inheritsFrom o a) := by
  have found := Chain.seek_next (f := fun x => if x = a then some () else none)
    (fun _ _ => s.index_lt_of_parent) (fun _ _ => congrArg ObjectRef.mk) ends
  rw [inheritsLoop, found, Part.map_some, inheritsFrom]
  congr 1
  rw [Bool.eq_iff_iff, List.findSome?_isSome_iff, decide_eq_true_iff]
  simp [ancestors]

/-- A key means the property of the nearest object that owns it. -/
theorem lookup_eq_some_iff (ends : Chain.Ends s.parent o) {key : String} {p : Property} :
    s.lookup o key = some p ↔ ∃ x, s.Nearest o key x ∧ (s.properties x).get? key = some p := by
  rw [← Part.some_inj, ← lookupLoop_eq ends]
  exact Chain.seek_eq_some_iff ends

/-- A key means nothing if no object owns it that is the one asked or that it delegates to. -/
theorem lookup_eq_none_iff {key : String} : s.lookup o key = none ↔
    (s.properties o).get? key = none ∧
      ∀ a, s.inheritsFrom o a = true → (s.properties a).get? key = none := by
  simp [lookup, lineage, inheritsFrom]

/-- **Delegation is a strict order, and lookup follows it**, for an object whose chain comes to an
end. -/
theorem delegatesInOrder_of_ends (ends : Chain.Ends s.parent o) : s.DelegatesInOrder o where
  inheritsLoop := inheritsLoop_eq ends
  steps a := s.inheritsFrom_iff.trans Chain.above_iff_walk
  irrefl := by
    rw [← Bool.not_eq_true, s.inheritsFrom_iff]
    exact ends.irrefl
  trans a b up up' := by
    rw [s.inheritsFrom_iff] at up up' ⊢
    exact up.trans up'
  comparable a b up up' := by
    simp only [s.inheritsFrom_iff] at up up' ⊢
    have above : ∀ {x}, Chain.Above s.parent o x → Chain.Reaches s.parent o x :=
      fun up => Chain.reaches_iff.mpr (.inr up)
    rcases (above up).total (above up') with up | up <;>
      rcases Chain.reaches_iff.mp up with same | up
    · exact .inl same
    · exact .inr (.inl up)
    · exact .inl same.symm
    · exact .inr (.inr up)
  lookupLoop := lookupLoop_eq ends
  own key p own := (lookup_eq_some_iff ends).mpr ⟨o, .self own, own⟩
  nearest key p := lookup_eq_some_iff ends
  missing key := lookup_eq_none_iff
  hasProperty key := by
    rw [hasProperty, Option.isSome_iff_ne_none, Ne, lookup_eq_none_iff]
    simp only [PropertyTable.contains, Option.isSome_iff_ne_none, not_and_or, not_forall,
      exists_prop]

end Store

/-! ### A chain of three -/

namespace Sample

/-- Three objects, each of which delegates to the one before. Of the keys of the first, one is an
accessor that can be written but not read; that of the second can be neither. -/
def lineal : Store :=
  { Store.initial with
    objects := #[
      ⟨none, (PropertyTable.empty.defineValue "x" (.int 1)).defineSetter "y" ⟨0⟩, none⟩,
      ⟨some ⟨0⟩, PropertyTable.empty.put "z" (.accessor none none), none⟩,
      ⟨some ⟨1⟩, PropertyTable.empty.put "w" (.data .null false), none⟩]
    functions := #[.host "set y" 1 (.script (.store "v"))] }

theorem ends_lineal : Chain.Ends lineal.parent ⟨2⟩ :=
  .step (b := ⟨1⟩) (by decide +kernel) (.step (b := ⟨0⟩) (by decide +kernel)
    (.last (by decide +kernel)))

end Sample

/-- The last object delegates to the first, and a key that only this one owns comes from it. -/
theorem delegatesInOrder_of_ends_lineal :
    Chain.Ends Sample.lineal.parent ⟨2⟩ ∧
      Sample.lineal.inheritsLoop ⟨2⟩ ⟨0⟩ = .some true ∧
      Sample.lineal.inheritsLoop ⟨2⟩ ⟨2⟩ = .some false ∧
      Sample.lineal.lookupLoop ⟨2⟩ "x" = .some (some (.data (.int 1) true)) ∧
      Sample.lineal.lookupLoop ⟨2⟩ "u" = .some none ∧
      ∃ x, Sample.lineal.Nearest ⟨2⟩ "x" x := by
  have order := Store.delegatesInOrder_of_ends Sample.ends_lineal
  have found : Sample.lineal.lookup ⟨2⟩ "x" = some (.data (.int 1) true) := by decide +kernel
  obtain ⟨x, nearest, _⟩ := (order.nearest "x" _).mp found
  refine ⟨Sample.ends_lineal, ?_, ?_, ?_, ?_, x, nearest⟩
  · exact (order.inheritsLoop ⟨0⟩).trans (congrArg Part.some (by decide +kernel))
  · exact (order.inheritsLoop ⟨2⟩).trans (by rw [order.irrefl])
  · rw [order.lookupLoop, found]
  · exact (order.lookupLoop "u").trans (congrArg Part.some (by decide +kernel))

end ClassLink
