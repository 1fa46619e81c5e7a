import ClassLink.Trait
import ClassLink.Value
/-!
# Binding tables

A trait set becomes a table of *bindings*: for every declared member the function or the slot
that it is at run time. A member is identified by its key and its kind. Declaring the same
member again replaces the entry in its place.

The tables of a class and the classes above it form a chain, the class's own table first. Lookup
takes the nearest declaration. The flattened chain lists every member once, inherited ones in
their place and with the nearest declaration.
-/

namespace ClassLink

/-- What a member is at run time. -/
inductive Binding where
  | method (f : FunctionRef)
  | getter (f : FunctionRef)
  | setter (f : FunctionRef)
  | slot (slotId : UInt32) (initial : Value) (isConst : Bool)
deriving DecidableEq, Repr, Inhabited

namespace Binding

/-- The kind of the member. -/
def kind : Binding → MemberKind
  | .method _ => .method
  | .getter _ => .getter
  | .setter _ => .setter
  | .slot .. => .slot

/-- The function behind a method or one half of an accessor. -/
def function? : Binding → Option FunctionRef
  | .method f | .getter f | .setter f => some f
  | .slot .. => none

end Binding

/-- A member of a table. -/
structure BindingEntry where
  key : String
  /-- The declared name. -/
  name : QualifiedName
  binding : Binding
  /-- Declared native. -/
  native : Bool
  /-- A table further up has the same member. -/
  overrides : Bool
deriving DecidableEq, Repr, Inhabited

namespace BindingEntry

/-- The kind of the member. -/
def kind (e : BindingEntry) : MemberKind := e.binding.kind

/-- What tells the member from others. -/
def id (e : BindingEntry) : String × MemberKind := (e.key, e.kind)

end BindingEntry

/-- The bindings of one trait set of one class. -/
structure BindingTable where
  set : TraitSet
  className : String
  /-- The members in the order of their first declaration. -/
  entries : List BindingEntry
  /-- Where a member stands among the entries. -/
  index : List ((String × MemberKind) × Nat)
  /-- The highest slot in use here or further up. -/
  slotCount : UInt32
deriving DecidableEq, Repr, Inhabited

namespace BindingTable

/-- A table without members. -/
def empty (set : TraitSet) (className : String) (slotCount : UInt32) : BindingTable :=
  ⟨set, className, [], [], slotCount⟩

/-- Write an entry: in the place of an entry for the same member, or at the end. -/
def put (t : BindingTable) (e : BindingEntry) : BindingTable :=
  match t.index.lookup e.id with
  | some i => { t with entries := t.entries.set i e }
  | none =>
    { t with
      index := t.index ++ [(e.id, t.entries.length)]
      entries := t.entries ++ [e] }

/-- The binding of a member of this table. -/
def lookup (t : BindingTable) (key : String) (kind : MemberKind) : Option Binding :=
  (t.index.lookup (key, kind)).bind fun i => (t.entries[i]?).map (·.binding)

end BindingTable

/-- The tables of a class and of the classes above it. -/
structure Bindings where
  own : BindingTable
  /-- The tables further up, the nearest first. -/
  inherited : List BindingTable
deriving DecidableEq, Repr, Inhabited

namespace Bindings

/-- The tables, the nearest first. -/
def tables (b : Bindings) : List BindingTable := b.own :: b.inherited

/-- The chain of the nearest table further up. -/
def parent? (b : Bindings) : Option Bindings :=
  match b.inherited with
  | [] => none
  | t :: ts => some ⟨t, ts⟩

/-- The binding of a member of this class. -/
def lookupOwn (b : Bindings) (key : String) (kind : MemberKind) : Option Binding :=
  b.own.lookup key kind

/-- The nearest binding of a member. -/
def lookup (b : Bindings) (key : String) (kind : MemberKind) : Option Binding :=
  b.tables.findSome? (·.lookup key kind)

/-- The entries of this class. -/
def entries (b : Bindings) : List BindingEntry := b.own.entries

/-- The highest slot in use. -/
def slotCount (b : Bindings) : UInt32 := b.own.slotCount

/-- Write an entry over an inherited one for the same member, or at the end. -/
def overlay (es : List BindingEntry) (e : BindingEntry) : List BindingEntry :=
  match es with
  | [] => [e]
  | x :: xs => if x.id = e.id then e :: xs else x :: overlay xs e

/-- Every member of a chain once, those further up first. -/
def flattenTables : List BindingTable → List BindingEntry
  | [] => []
  | t :: ts => t.entries.foldl overlay (flattenTables ts)

/-- Every member once, inherited ones first, with its nearest declaration. -/
def flattened (b : Bindings) : List BindingEntry := flattenTables b.tables

end Bindings

end ClassLink
