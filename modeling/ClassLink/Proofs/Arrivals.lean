import ClassLink.Proofs.Appending
import ClassLink.Proofs.Calls
import Mathlib.Data.List.Dedup

/-!
# The order in which keys arrive

The own keys of an object are listed in the order in which they arrived. A key arrives when it is
written while it is absent: writing it again leaves it where it is, and once it is deleted it may
arrive again. What happens to an object is a list of writes (`Write`), and its keys are the latest
arrivals of those that are present (`Store.Recorded.keys`). Each way to write keeps the list and the
map of a table in agreement. For storing a value this rests on the lookup before it: over an
accessor of the object itself the key would be listed again, but that accessor would have been
found.

Writing a property may call a setter, and what that does is up to whoever supplied it. It can get at
the properties of objects by these same writes only, so what it does to them is a list of writes as
well, on whatever objects (`Invoke.WritesBy`). With that the keys of an object are in order after
any run of operations on it (`keys_edited`).
-/

namespace ClassLink

/-! ### Writes -/

/-- A write that may be made whatever the properties of the object are. -/
inductive Change where
  | defineValue (key : String) (v : Value)
  | defineMethod (key : String) (f : FunctionRef)
  | defineGetter (key : String) (f : FunctionRef)
  | defineSetter (key : String) (f : FunctionRef)
  | setEnumerable (key : String) (on : Bool)
  | delete (key : String)
deriving DecidableEq, Repr

namespace Change

/-- The key that is written. -/
def key : Change → String
  | .defineValue key _ | .defineMethod key _ | .defineGetter key _ | .defineSetter key _
  | .setEnumerable key _ | .delete key => key

/-- The properties after the write. -/
def on : Change → PropertyTable → PropertyTable
  | .defineValue key v, t => t.defineValue key v
  | .defineMethod key f, t => t.defineMethod key f
  | .defineGetter key f, t => t.defineGetter key f
  | .defineSetter key f, t => t.defineSetter key f
  | .setEnumerable key on, t => t.setEnumerable key on
  | .delete key, t => t.erase key

end Change

/-- A write to the own properties of an object. -/
inductive Write where
  | change (c : Change)
  /-- A value is stored, where the key means no accessor for the object. -/
  | store (key : String) (v : Value)
deriving DecidableEq, Repr

namespace Write

/-- The key that is written. -/
def key : Write → String
  | .change c => c.key
  | .store key _ => key

/-- The properties after the write. -/
def on : Write → PropertyTable → PropertyTable
  | .change c, t => c.on t
  | .store key v, t => t.store key v

/-- Nothing is stored under the key of an accessor, wherever on the chain that is found. -/
def Fits (w : Write) (s : Store) (o : ObjectRef) : Prop :=
  match w with
  | .change _ => True
  | .store key _ => ∀ getter setter, s.lookup o key ≠ some (.accessor getter setter)

variable {w : Write} {s : Store} {o : ObjectRef}

/-- A write defines a property under its key, or changes nothing, unless it deletes the key. -/
theorem on_cases (fits : w.Fits s o) :
    (∃ p, w.on (s.properties o) = (s.properties o).put w.key p) ∨
      w.on (s.properties o) = s.properties o ∨ w = .change (.delete w.key) := by
  cases w with
  | store key v =>
    exact .inl (PropertyTable.exists_store_eq_put
      (fun getter setter own => fits getter setter (s.lookup_of_own own)) v)
  | change c =>
    cases c with
    | setEnumerable key on =>
      rcases (s.properties o).setEnumerable_eq_or key on with same | ⟨-, put⟩
      · exact .inr (.inl same)
      · exact .inl put
    | delete key => exact .inr (.inr rfl)
    | _ => exact .inl ⟨_, rfl⟩

/-- **Each way to write keeps the agreement.** -/
theorem agrees (fits : w.Fits s o) (h : (s.properties o).Agrees) :
    (w.on (s.properties o)).Agrees := by
  rcases on_cases fits with ⟨p, put⟩ | same | delete
  · exact put ▸ h.put w.key p
  · exact same.symm ▸ h
  · rw [delete]
    exact h.erase w.key

end Write

/-! ### Arrivals -/

namespace PropertyTable

/-- The key of a write, if it arrives: it was absent and is there afterwards. -/
def arrival (t : PropertyTable) (w : Write) : List String :=
  if t.contains w.key = false ∧ (w.on t).contains w.key = true then [w.key] else []

/-- The keys that arrive in a list of writes, in order. -/
def arrivals : PropertyTable → List Write → List String
  | _, [] => []
  | t, w :: ws => t.arrival w ++ arrivals (w.on t) ws

/-- A key that is defined is listed where it arrives. -/
theorem keys_of_put {t : PropertyTable} {w : Write} {p : Property} (h : w.on t = t.put w.key p) :
    (w.on t).keys = t.keys ++ t.arrival w := by
  have there : (w.on t).contains w.key = true := by simp [h, contains_put]
  rw [arrival, h, keys_put, ← h]
  cases present : t.contains w.key <;> simp [there]

theorem arrival_of_same {t : PropertyTable} {w : Write} (h : w.on t = t) : t.arrival w = [] := by
  rw [arrival, h, if_neg]
  rintro ⟨absent, present⟩
  exact Bool.noConfusion (absent.symm.trans present)

theorem arrival_delete (t : PropertyTable) (key : String) :
    t.arrival (.change (.delete key)) = [] := by
  refine if_neg fun arrives => ?_
  have gone : (t.erase key).contains key = false := by simp [contains_erase]
  exact Bool.noConfusion (gone.symm.trans arrives.2)

end PropertyTable

/-- A key that arrives again, or is not asked for, may as well be left out. -/
theorem filter_dedup_filter_append {k : String} {p : String → Bool} (l m : List String)
    (h : k ∈ m ∨ p k = false) :
    (l.filter (· ≠ k) ++ m).dedup.filter p = (l ++ m).dedup.filter p := by
  induction l with
  | nil => rfl
  | cons a l ih =>
    by_cases same : a = k
    · subst same
      rw [List.filter_cons_of_neg (by simp), ih, List.cons_append]
      by_cases again : a ∈ l ++ m
      · rw [List.dedup_cons_of_mem again]
      · rw [List.dedup_cons_of_notMem again, List.filter_cons_of_neg]
        have out : a ∉ m := fun inside => again (List.mem_append_right l inside)
        simp [h.resolve_left out]
    · have mem : a ∈ l.filter (· ≠ k) ++ m ↔ a ∈ l ++ m := by simp [same]
      rw [List.filter_cons_of_pos (by simp [same]), List.cons_append, List.cons_append]
      by_cases again : a ∈ l ++ m
      · rw [List.dedup_cons_of_mem again, List.dedup_cons_of_mem (mem.mpr again), ih]
      · rw [List.dedup_cons_of_notMem again, List.dedup_cons_of_notMem (mt mem.mp again),
          List.filter_cons, List.filter_cons, ih]

/-- The latest arrivals after a write, of which `more` come later, are those that count the write
in: a key that is defined comes last, and one that is deleted is there in the end only if it arrives
again. -/
theorem Write.keys_step {w : Write} {s : Store} {o : ObjectRef} {u : PropertyTable}
    {more : List String} (fits : w.Fits s o) (h : (s.properties o).Agrees) (ending : u.Agrees)
    (listed : u.keys = ((w.on (s.properties o)).keys ++ more).dedup.filter u.contains) :
    u.keys = ((s.properties o).keys ++ ((s.properties o).arrival w ++ more)).dedup.filter
      u.contains := by
  rcases on_cases fits with ⟨p, put⟩ | same | delete
  · rwa [PropertyTable.keys_of_put put, List.append_assoc] at listed
  · rw [PropertyTable.arrival_of_same same, List.nil_append]
    rwa [same] at listed
  · generalize w.key = key at delete
    subst delete
    have erased : ((Write.change (.delete key)).on (s.properties o)).keys =
        (s.properties o).keys.filter (· ≠ key) := h.keys_erase key
    rw [erased] at listed
    rw [PropertyTable.arrival_delete, List.nil_append]
    refine listed.trans (filter_dedup_filter_append _ _ ?_)
    by_cases again : key ∈ more
    · exact .inl again
    · refine .inr (Bool.eq_false_of_not_eq_true fun present => ?_)
      rw [← ending.mem_iff, listed] at present
      have arrived := List.mem_dedup.mp (List.mem_of_mem_filter present)
      rcases List.mem_append.mp arrived with old | new
      · simpa using List.of_mem_filter old
      · exact again new

/-! ### Records -/

/-- Between two stores properties were written as a record says, each write fitting when it was
made, and anything may have happened that writes no properties. -/
inductive Store.Recorded : Store → List (ObjectRef × Write) → Store → Prop
  | nil (s : Store) : Recorded s [] s
  | other {s t u : Store} {ws : List (ObjectRef × Write)} :
      s.objects.size ≤ t.objects.size → t.properties = s.properties → Recorded t ws u →
      Recorded s ws u
  | write {s u : Store} {o : ObjectRef} {w : Write} {ws : List (ObjectRef × Write)} :
      w.Fits s o → Recorded (s.modifyProperties o w.on) ws u → Recorded s ((o, w) :: ws) u

/-- The writes of a record to one object. -/
def writesTo (o : ObjectRef) (ws : List (ObjectRef × Write)) : List Write :=
  ws.filterMap fun x => if x.1 = o then some x.2 else none

namespace Store.Recorded

variable {s t u : Store} {o : ObjectRef} {ws vs : List (ObjectRef × Write)}

theorem append (h : s.Recorded ws t) (k : t.Recorded vs u) : s.Recorded (ws ++ vs) u := by
  induction h with
  | nil => exact k
  | other le same _ ih => exact .other le same (ih k)
  | write fits _ ih => exact .write fits (ih k)

theorem of_properties (le : s.objects.size ≤ t.objects.size) (same : t.properties = s.properties) :
    s.Recorded [] t :=
  .other le same (.nil t)

theorem of_objects (same : t.objects = s.objects) : s.Recorded [] t :=
  of_properties (congrArg Array.size same).ge (by
    funext o
    rw [Store.properties, Store.object, same]
    rfl)

/-- Changes that are made to an object one after the other. -/
theorem changes (cs : List Change) (le : s.objects.size ≤ t.objects.size)
    (same : t.properties =
      (s.modifyProperties o fun table => cs.foldl (fun u c => c.on u) table).properties) :
    s.Recorded (cs.map fun c => (o, .change c)) t := by
  induction cs generalizing s with
  | nil =>
    refine .of_properties le (same.trans ?_)
    funext x
    rw [s.properties_modifyProperties, List.foldl_nil, ite_self]
  | cons c cs ih =>
    refine .write trivial (ih (le.trans_eq' (s.size_modifyProperties ..).symm) (same.trans ?_))
    funext x
    rw [s.properties_modifyProperties, Store.properties_modifyProperties,
      s.properties_modifyProperties, s.size_modifyProperties]
    split <;> rfl

/-- **What a record says of the keys of an object.** They agree with its properties if they did, and
they are the latest arrivals of those present, where the keys that were there to begin with arrived
first. -/
theorem keys (h : s.Recorded ws t) (inside : o.index < s.objects.size)
    (agrees : (s.properties o).Agrees) :
    (t.properties o).Agrees ∧
      (t.properties o).keys =
        ((s.properties o).keys ++ (s.properties o).arrivals (writesTo o ws)).dedup.filter
          (t.properties o).contains := by
  induction h with
  | nil s =>
    refine ⟨agrees, ?_⟩
    rw [writesTo, List.filterMap_nil, PropertyTable.arrivals, List.append_nil, agrees.nodup.dedup]
    exact (List.filter_eq_self.mpr fun k hk => (agrees.mem_iff k).mp hk).symm
  | other le same _ ih =>
    rw [same] at ih
    exact ih (inside.trans_le le) agrees
  | @write s u x w ws fits _ ih =>
    have size := s.size_modifyProperties x w.on
    by_cases here : x = o
    · subst here
      have written : (s.modifyProperties x w.on).properties x = w.on (s.properties x) :=
        (s.properties_modifyProperties x x _).trans (if_pos ⟨rfl, inside⟩)
      have later := ih (size ▸ inside)
      rw [written] at later
      obtain ⟨ending, listed⟩ := later (w.agrees fits agrees)
      have split : writesTo x ((x, w) :: ws) = w :: writesTo x ws := by simp [writesTo]
      rw [split]
      exact ⟨ending, w.keys_step fits agrees ending listed⟩
    · have kept : (s.modifyProperties x w.on).properties o = s.properties o :=
        (s.properties_modifyProperties x o _).trans (if_neg fun same => here same.1)
      have split : writesTo o ((x, w) :: ws) = writesTo o ws := by simp [writesTo, here]
      rw [split, ← kept]
      exact ih (size ▸ inside) (kept.symm ▸ agrees)

end Store.Recorded

/-! ### Code that is called -/

/-- What calls write: for each call, in a store, the writes in order, each with its object. -/
abbrev CallRecord := FunctionRef → Value → List Value → Store → List (ObjectRef × Write)

/-- Functions are called in such a way that what a call does to the properties of objects is what
the record says, whether it succeeds or fails. -/
def Invoke.WritesBy (invoke : Invoke) (record : CallRecord) : Prop :=
  ∀ f this args (s : Store), s.Recorded (record f this args s) (exec (invoke f this args) s).2

/-- The one write that a call of a function of the store makes. -/
theorem Effect.exists_recorded {s t : Store} (h : Effect s t) : ∃ ws, s.Recorded ws t := by
  cases h with
  | none => exact ⟨[], .nil s⟩
  | newObject parent =>
    exact ⟨[], .of_properties (confined_newObject .none s parent).objects_le
      (properties_newObject ..)⟩
  | store o key v plain => exact ⟨[(o, .store key v)], .write plain (.nil _)⟩
  | setEnumerable o key on =>
    exact ⟨[(o, .change (.setEnumerable key on))], .write trivial (.nil _)⟩
  | setTemplate f o =>
    refine ⟨[], .of_objects ?_⟩
    rw [exec_setTemplate]
    split
    · rfl
    split <;> rfl

/-- There is such a record of what the functions of a store do. -/
theorem exists_writesBy_call : ∃ record, Invoke.WritesBy call record := by
  choose record recorded using fun f this args s =>
    (effect_call f this args s).exists_recorded
  exact ⟨record, recorded⟩

/-! ### Operations on an object -/

/-- An operation on the own properties of an object. -/
inductive Edit where
  | change (c : Change)
  /-- Writes a property, which may call a setter. -/
  | set (key : String) (v : Value)
  /-- Installs the members of a chain of tables, counted in a domain. -/
  | apply (b : Bindings) (d : DomainRef) (mode : ApplyMode)

/-- Installing a member is a change. -/
def BindingEntry.change (e : BindingEntry) : Change :=
  match e.binding with
  | .method f => .defineMethod e.key f
  | .getter f => .defineGetter e.key f
  | .setter f => .defineSetter e.key f
  | .slot _ initial _ => .defineValue e.key initial

theorem BindingEntry.on_change (e : BindingEntry) (t : PropertyTable) :
    e.change.on t = t.install e := by
  unfold BindingEntry.change PropertyTable.install
  cases e.binding <;> rfl

namespace Edit

section
variable (invoke : Invoke) (record : CallRecord) (o : ObjectRef)

/-- The operation on an object. -/
def run : Edit → Run Unit
  | .change c => modify (·.modifyProperties o c.on)
  | .set key v => writeProperty invoke o key v
  | .apply b d mode => b.applyTo d o mode

/-- The store that the operation leaves, also when it fails. -/
def after (e : Edit) (s : Store) : Store := (exec (e.run invoke o) s).2

/-- What is written by the operation: the value is stored unless there is a setter to call or an
accessor without one, and members are installed one by one. -/
def writes (s : Store) : Edit → List (ObjectRef × Write)
  | .change c => [(o, .change c)]
  | .set key v =>
    match s.lookup o key with
    | some (.accessor _ (some setter)) => record setter (.object o) [v] s
    | some (.accessor _ none) => []
    | _ => [(o, .store key v)]
  | .apply b _ mode => (b.pending mode (s.properties o)).map fun e => (o, .change e.change)

end

variable {invoke : Invoke} {record : CallRecord} {o : ObjectRef} {s t : Store}

/-- **What an operation writes.** -/
theorem recorded_after (h : invoke.WritesBy record) (e : Edit) (s : Store) :
    s.Recorded (e.writes record o s) (e.after invoke o s) := by
  cases e with
  | change c => exact .write trivial (.nil _)
  | set key v =>
    rw [after, run, writeProperty, exec_get_bind, writes]
    rcases found : s.lookup o key with _ | (_ | ⟨getter, _ | setter⟩)
    · exact .write (fun _ _ other => by cases found.symm.trans other) (.nil _)
    · exact .write (fun _ _ other => by cases found.symm.trans other) (.nil _)
    · exact .nil s
    · exact (store_exec_bind_pure ..).symm ▸ h _ _ _ s
  | apply b d mode =>
    let cs := (b.pending mode (s.properties o)).map BindingEntry.change
    have same : (Edit.apply b d mode).writes record o s = cs.map fun c => (o, .change c) := by
      rw [writes, List.map_map]
      rfl
    rw [same]
    refine .changes cs (confined_applyTo (p := .all) b o mode trivial trivial).objects_le ?_
    funext x
    refine (b.properties_applyTo d o mode s x).trans (Eq.trans ?_
      (s.properties_modifyProperties o x _).symm)
    split
    · rename_i here
      simp only [here.1, cs, Bindings.applied, List.foldl_map, BindingEntry.on_change]
    · rfl

end Edit

/-! ### Runs of operations -/

/-- The store after a run of operations on an object. -/
def edited (invoke : Invoke) (o : ObjectRef) (es : List Edit) (s : Store) : Store :=
  es.foldl (fun u e => e.after invoke o u) s

/-- What is written in a run of operations on an object, on it and on others, in order. -/
def written (invoke : Invoke) (record : CallRecord) (o : ObjectRef) :
    List Edit → Store → List (ObjectRef × Write)
  | [], _ => []
  | e :: es, s => e.writes record o s ++ written invoke record o es (e.after invoke o s)

theorem recorded_edited {invoke : Invoke} {record : CallRecord} (h : invoke.WritesBy record)
    (o : ObjectRef) (es : List Edit) (s : Store) :
    s.Recorded (written invoke record o es s) (edited invoke o es s) := by
  induction es generalizing s with
  | nil => exact .nil s
  | cons e es ih => exact (Edit.recorded_after h e s).append (ih (e.after invoke o s))

/-- **The own keys of an object.** After any run of operations on an object that had no properties,
whatever setters are called and whatever they write, its keys are listed once each, they are those
that mean an own property, and they are in the order in which they arrived, a key that arrived
several times being listed where it arrived last. -/
theorem keys_edited {invoke : Invoke} {record : CallRecord} (h : invoke.WritesBy record)
    {o : ObjectRef} {s : Store} (es : List Edit) (inside : o.index < s.objects.size)
    (bare : s.properties o = .empty) :
    let t := (edited invoke o es s).properties o
    t.keys.Nodup ∧ (∀ key, key ∈ t.keys ↔ (t.get? key).isSome = true) ∧
      t.keys = (PropertyTable.empty.arrivals
        (writesTo o (written invoke record o es s))).dedup.filter t.contains := by
  intro t
  obtain ⟨agrees, keys⟩ := (recorded_edited h o es s).keys inside (bare ▸ .empty)
  rw [bare] at keys
  exact ⟨agrees.nodup, agrees.mem_iff, keys⟩

/-! ### A setter that tidies up -/

namespace Sample

/-- A store with one object, which has no properties. -/
def lone : Store := { Store.initial with objects := #[.bare none] }

/-- What is called writes a key of its receiver, and deletes another one and writes it again. -/
def tidying : List Change := [.defineValue "c" .null, .delete "a", .defineValue "a" .undefined]

/-- Calling any function of an object does this. -/
def tidies : Invoke := fun _ this _ => do
  if let .object o := this then
    modify (·.modifyProperties o fun t => tidying.foldl (fun u c => c.on u) t)
  return .undefined

/-- The record of it. -/
def tidied : CallRecord := fun _ this _ _ =>
  match this with
  | .object o => tidying.map fun c => (o, .change c)
  | _ => []

/-- Two keys are defined, the second with a setter, which is called; then comes another key. -/
def rewritten : List Edit :=
  [.change (.defineValue "a" .null), .change (.defineSetter "b" ⟨0⟩), .set "b" .undefined,
    .change (.defineValue "d" .null)]

theorem writesBy_tidied : tidies.WritesBy tidied := by
  intro f this args s
  cases this with
  | object o =>
    exact .changes tidying (s.size_modifyProperties ..).ge rfl
  | _ => exact .nil s

end Sample

/-- The setter moves the first key behind the one that it writes. -/
theorem keys_edited_rewritten :
    let t := (edited Sample.tidies ⟨0⟩ Sample.rewritten Sample.lone).properties ⟨0⟩
    Sample.tidies.WritesBy Sample.tidied ∧
      PropertyTable.empty.arrivals
          (writesTo ⟨0⟩ (written Sample.tidies Sample.tidied ⟨0⟩ Sample.rewritten Sample.lone)) =
        ["a", "b", "c", "a", "d"] ∧
      t.keys.Nodup ∧ t.keys = ["b", "c", "a", "d"] := by
  intro t
  obtain ⟨nodup, _, keys⟩ := keys_edited Sample.writesBy_tidied (o := ⟨0⟩) (s := Sample.lone)
    Sample.rewritten (by decide +kernel) (by decide +kernel)
  exact ⟨Sample.writesBy_tidied, by decide +kernel, nodup, keys.trans (by decide +kernel)⟩

end ClassLink
