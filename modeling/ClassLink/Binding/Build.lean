import ClassLink.Binding.Resolve
/-!
# Building binding tables

A native member is bound to its implementation, or to a stub that fails when it is called; any
other member that runs code to a function made from its bytecode; a slot to its place and
initial value. Slots that ask for a place are given the one after the highest in use.

What makes functions from bytecode is up to the embedder, so tables are built with whatever does
(`BindingContext.buildBy`). A domain builds them with its own synthesizer.
-/

namespace ClassLink

/-- What makes a function from a method of bytecode, in a scope. It may write the store as it likes,
and need not make a new function. -/
abbrev Synthesis := Method → Scope → Bool → Action FunctionRef

/-- A domain makes a new function, which does what its synthesizer lets it do. -/
def synthesize (d : DomainRef) (m : Method) (scope : Scope) (checksInit : Bool) :
    Action FunctionRef := do
  newFunction (.bytecode m scope checksInit (((← get).domain d).synthesizer.entry m))

/-- What a slot starts with: its constant, or the default of its type; a type that is not linked
has null, and an untyped slot undefined. -/
def slotInitial (s : Store) (d : DomainRef) (slot : Slot) : Value :=
  match slot.initial, slot.typeName with
  | some c, _ => c.value
  | none, none => .undefined
  | none, some name =>
    match (s.domain d).directory.find? name.key with
    | some c => (s.classAt c).defaultValue
    | none => .null

/-- What the tables of one trait set are built in. -/
structure BindingContext where
  domain : DomainRef
  set : TraitSet
  className : String
  /-- The scope of functions made from bytecode. -/
  scope : Scope
  /-- Where native members are looked up. -/
  holders : List ObjectRef
  /-- The tables further up. -/
  parent : Option Bindings
deriving Repr

namespace BindingContext

/-- The function of a member that runs code. -/
def bindFunction (x : BindingContext) (make : Synthesis) (t : Trait) (m : Method) :
    Action FunctionRef := do
  if t.isNative then
    match ← resolveBinding t x.holders with
    | some f => return f
    | none =>
      log (.debug LogRecord.linkTarget
        ("binding stub for " ++ x.set.word ++ " " ++ t.display ++ " in " ++ x.className))
      modify (·.modifyDomain x.domain Domain.countStub)
      newFunction (.unresolved t.name.display x.className)
  else make m x.scope false

/-- The place of a slot when `used` is the highest place in use. -/
def slotId (used : UInt32) (slot : Slot) : UInt32 :=
  if slot.slotId = 0 then used + 1 else slot.slotId

/-- The binding of a member, when `used` is the highest place in use. -/
def bind (x : BindingContext) (make : Synthesis) (used : UInt32) (t : Trait) : Action Binding := do
  match t.declaration with
  | .method m => return .method (← x.bindFunction make t m)
  | .getter m => return .getter (← x.bindFunction make t m)
  | .setter m => return .setter (← x.bindFunction make t m)
  | .slot slot =>
    return .slot (slotId used slot) (slotInitial (← get) x.domain slot) slot.isConst

/-- The highest place in use once a binding is added. -/
def usedAfter (used : UInt32) : Binding → UInt32
  | .slot id _ _ => if used < id then id else used
  | _ => used

/-- A table further up has the member. -/
def isInherited (x : BindingContext) (key : String) (kind : MemberKind) : Bool :=
  match x.parent with
  | some p => (p.lookup key kind).isSome
  | none => false

/-- The entry of a member. -/
def entry (x : BindingContext) (t : Trait) (b : Binding) : BindingEntry where
  key := t.key
  name := t.name
  binding := b
  native := t.isNative
  overrides := x.isInherited t.key b.kind

/-- Add a member to a table. -/
def add (x : BindingContext) (make : Synthesis) (table : BindingTable) (t : Trait) :
    Action BindingTable := do
  let b ← x.bind make table.slotCount t
  return { table with slotCount := usedAfter table.slotCount b }.put (x.entry t b)

/-- The table before any member is added; places in use further up stay in use. -/
def start (x : BindingContext) : BindingTable :=
  .empty x.set x.className (match x.parent with
    | some p => p.slotCount
    | none => 0)

/-- Build the table of a trait set, with the tables further up. -/
def buildBy (x : BindingContext) (make : Synthesis) (traits : List Trait) : Action Bindings := do
  let own ← traits.foldlM (x.add make) x.start
  return ⟨own, match x.parent with
    | some p => p.tables
    | none => []⟩

/-- Build it with the synthesizer of the domain. -/
def build (x : BindingContext) (traits : List Trait) : Action Bindings :=
  x.buildBy (synthesize x.domain) traits

end BindingContext

end ClassLink
