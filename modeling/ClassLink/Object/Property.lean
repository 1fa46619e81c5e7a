import ClassLink.Trait
import ClassLink.Value
/-!
# Properties and property tables

The own properties of an object are a map from keys to properties, and beside it a list of keys in
the order in which they arrived. The two are maintained apart. Defining a property lists its key if
the map does not have it, so that a key that is present stays where it is; removing a property takes
its key off the list; storing a value has a way of its own to write and to list a key.
-/

namespace ClassLink

/-- An own property of an object. -/
inductive Property where
  /-- A stored value, and whether enumeration shows it. -/
  | data (value : Value) (enumerable : Bool)
  /-- A pair of functions that reading and writing run; either half may be missing. -/
  | accessor (getter setter : Option FunctionRef)
deriving DecidableEq, Repr, Inhabited

namespace Property

/-- The function that a data property holds. -/
def method? : Property → Option FunctionRef
  | .data (.function f) _ => some f
  | _ => none

/-- The half that reading runs. -/
def getter? : Property → Option FunctionRef
  | .accessor getter _ => getter
  | _ => none

/-- The half that writing runs. -/
def setter? : Property → Option FunctionRef
  | .accessor _ setter => setter
  | _ => none

/-- Enumeration shows the property; it never shows accessors. -/
def isEnumerable : Property → Bool
  | .data _ enumerable => enumerable
  | .accessor .. => false

end Property

/-- The entries of a map after a write: in the place of the key's entry if it has one, at the end
otherwise. -/
def putEntry (key : String) (p : Property) : List (String × Property) → List (String × Property)
  | [] => [(key, p)]
  | (k, q) :: r => if k = key then (key, p) :: r else (k, q) :: putEntry key p r

/-- The own properties of an object. -/
structure PropertyTable where
  /-- The map. -/
  properties : List (String × Property)
  /-- The keys in the order of their arrival. -/
  keys : List String
deriving DecidableEq, Repr, Inhabited

namespace PropertyTable

/-- A table without keys. -/
def empty : PropertyTable := ⟨[], []⟩

/-- The property under a key. -/
def get? (t : PropertyTable) (key : String) : Option Property := t.properties.lookup key

/-- The key is present. -/
def contains (t : PropertyTable) (key : String) : Bool := (t.get? key).isSome

/-- The keys that are listed, with their properties. -/
def entries (t : PropertyTable) : List (String × Property) :=
  t.keys.filterMap fun key => (t.get? key).map (key, ·)

/-- Write a property under a key, and list the key if it was absent. -/
def put (t : PropertyTable) (key : String) (p : Property) : PropertyTable where
  properties := putEntry key p t.properties
  keys := if t.contains key then t.keys else t.keys ++ [key]

/-- The table without a key. -/
def erase (t : PropertyTable) (key : String) : PropertyTable :=
  if t.contains key then ⟨t.properties.filter (·.1 ≠ key), t.keys.filter (· ≠ key)⟩ else t

/-- The function under a key. -/
def method? (t : PropertyTable) (key : String) : Option FunctionRef :=
  (t.get? key).bind Property.method?

/-- The getter under a key. -/
def getter? (t : PropertyTable) (key : String) : Option FunctionRef :=
  (t.get? key).bind Property.getter?

/-- The setter under a key. -/
def setter? (t : PropertyTable) (key : String) : Option FunctionRef :=
  (t.get? key).bind Property.setter?

/-- The function that a member of the given kind is under a key; slots are none. -/
def function? (t : PropertyTable) (kind : MemberKind) (key : String) : Option FunctionRef :=
  match kind with
  | .method => t.method? key
  | .getter => t.getter? key
  | .setter => t.setter? key
  | .slot => none

/-- The key holds a function. -/
def hasMethod (t : PropertyTable) (key : String) : Bool := (t.method? key).isSome

/-- The key has a getter. -/
def hasGetter (t : PropertyTable) (key : String) : Bool := (t.getter? key).isSome

/-- The key has a setter. -/
def hasSetter (t : PropertyTable) (key : String) : Bool := (t.setter? key).isSome

/-- A member of the given kind is under a key; slots never are. -/
def hasFunction (t : PropertyTable) (kind : MemberKind) (key : String) : Bool :=
  match kind with
  | .method => t.hasMethod key
  | .getter => t.hasGetter key
  | .setter => t.hasSetter key
  | .slot => false

/-- Enumeration shows the key. -/
def isEnumerable (t : PropertyTable) (key : String) : Bool :=
  match t.get? key with
  | some p => p.isEnumerable
  | none => false

/-- Define a data property that enumeration shows. -/
def defineValue (t : PropertyTable) (key : String) (v : Value) : PropertyTable :=
  t.put key (.data v true)

/-- Define a method, which enumeration does not show. -/
def defineMethod (t : PropertyTable) (key : String) (f : FunctionRef) : PropertyTable :=
  t.put key (.data (.function f) false)

/-- Define the half of an accessor that reading runs; the other half stays. -/
def defineGetter (t : PropertyTable) (key : String) (f : FunctionRef) : PropertyTable :=
  t.put key (.accessor (some f) (t.setter? key))

/-- Define the half of an accessor that writing runs; the other half stays. -/
def defineSetter (t : PropertyTable) (key : String) (f : FunctionRef) : PropertyTable :=
  t.put key (.accessor (t.getter? key) (some f))

/-- Show or hide a data property; other keys cannot be shown or hidden. -/
def setEnumerable (t : PropertyTable) (key : String) (on : Bool) : PropertyTable :=
  match t.get? key with
  | some (.data v _) => { t with properties := putEntry key (.data v on) t.properties }
  | _ => t

/-- The key holds a data property. -/
def holdsData (t : PropertyTable) (key : String) : Bool :=
  match t.get? key with
  | some (.data ..) => true
  | _ => false

/-- Store a value: a data property keeps whether it is shown; otherwise the value is shown, and its
key is listed, whether the key was there or not. -/
def store (t : PropertyTable) (key : String) (v : Value) : PropertyTable :=
  match t.get? key with
  | some (.data _ enumerable) =>
    { t with properties := putEntry key (.data v enumerable) t.properties }
  | _ => ⟨putEntry key (.data v true) t.properties, t.keys ++ [key]⟩

theorem lookup_cons_eq_ite {α : Type} (k k' : String) (v : α) (es : List (String × α)) :
    ((k', v) :: es).lookup k = if k = k' then some v else es.lookup k := by
  by_cases h : k = k'
  · simp [h]
  · simp [List.lookup_cons, beq_false_of_ne h, h]

theorem lookup_putEntry (key k : String) (p : Property) (es : List (String × Property)) :
    (putEntry key p es).lookup k = if k = key then some p else es.lookup k := by
  induction es with
  | nil => simp [putEntry, lookup_cons_eq_ite]
  | cons e r ih =>
    obtain ⟨k', q⟩ := e
    by_cases h' : k' = key
    · subst h'
      by_cases h : k = k' <;> simp [putEntry, lookup_cons_eq_ite, h]
    · by_cases h : k = k'
      · subst h; simp [putEntry, h']
      · simp [putEntry, lookup_cons_eq_ite, h', h, ih]

theorem lookup_filter_ne (key k : String) (es : List (String × Property)) :
    (es.filter (·.1 ≠ key)).lookup k = if k = key then none else es.lookup k := by
  induction es with
  | nil => simp
  | cons e r ih =>
    obtain ⟨k', q⟩ := e
    by_cases h' : k' = key
    · subst h'
      rw [List.filter_cons_of_neg (by simp), ih, lookup_cons_eq_ite]
      split <;> rfl
    · rw [List.filter_cons_of_pos (by simp [h']), lookup_cons_eq_ite, ih, lookup_cons_eq_ite]
      by_cases h : k = k'
      · subst h; simp [h']
      · simp [h]

theorem hasFunction_eq (t : PropertyTable) (kind : MemberKind) (key : String) :
    t.hasFunction kind key = (t.function? kind key).isSome := by
  cases kind <;> rfl

@[simp] theorem get?_put (t : PropertyTable) (key k : String) (p : Property) :
    (t.put key p).get? k = if k = key then some p else t.get? k :=
  lookup_putEntry key k p t.properties

@[simp] theorem get?_erase (t : PropertyTable) (key k : String) :
    (t.erase key).get? k = if k = key then none else t.get? k := by
  rw [erase]
  split
  · exact lookup_filter_ne key k t.properties
  · rename_i absent
    split
    · rename_i same
      rw [same]
      exact Option.not_isSome_iff_eq_none.mp absent
    · rfl

end PropertyTable

end ClassLink
