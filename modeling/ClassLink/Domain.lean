import ClassLink.Diagnostic
import ClassLink.Native.HostFunction
import ClassLink.Options
import ClassLink.Scope
/-!
# Domains

A domain is the context in which classes are linked against each other. It keeps a directory of
its classes, remembers the root class and the class of class objects, counts what binding did,
and collects diagnostics. Bodies of bytecode are made into functions by its *synthesizer*, in one of
the forms that a domain can hold; tables of members are built with whatever makes functions.
-/

namespace ClassLink

/-- What the functions made from bytecode do, in the forms that a domain holds. -/
inductive Synthesizer where
  /-- Nothing; they give undefined. -/
  | inert
  /-- What a table says for the index of the method; nothing where it says nothing. -/
  | table (bodies : List (UInt32 × Script))
deriving DecidableEq, Repr, Inhabited

/-- What the function made from a method does. -/
def Synthesizer.entry (s : Synthesizer) (m : Method) : HostFunction :=
  let script :=
    match s with
    | .inert => none
    | .table bodies => bodies.lookup m.index
  .script (script.getD (.constant .undefined))

/-- Counts of what binding did. -/
structure BindingStats where
  /-- Tables applied to an object. -/
  tables : Nat
  /-- Members that they defined. -/
  members : Nat
  /-- Stubs planted for native members that nobody implements. -/
  stubs : Nat
deriving DecidableEq, Repr, Inhabited

/-- The linked classes of a domain. -/
structure Directory where
  /-- In the order of linking. -/
  classes : List ClassRef
  /-- From the key of a class to its place in that order; the latest comes first. -/
  places : List (String × Nat)
deriving DecidableEq, Repr, Inhabited

namespace Directory

/-- A directory without classes. -/
def empty : Directory := ⟨[], []⟩

/-- Add a class under a key; it hides an earlier one of the same key. -/
def add (d : Directory) (key : String) (c : ClassRef) : Directory :=
  ⟨d.classes ++ [c], (key, d.classes.length) :: d.places⟩

/-- The class under a key. -/
def find? (d : Directory) (key : String) : Option ClassRef :=
  (d.places.lookup key).bind (d.classes[·]?)

/-- The number of classes. -/
def size (d : Directory) : Nat := d.classes.length

end Directory

/-- A linking context. -/
structure Domain where
  options : Options
  synthesizer : Synthesizer
  directory : Directory
  diagnostics : List Diagnostic
  /-- The object of the outermost scope. -/
  global : ObjectRef
  /-- The first root class linked. -/
  rootClass : Option ClassRef
  /-- The first class of class objects linked. -/
  classOfClasses : Option ClassRef
  stats : BindingStats
deriving Repr, Inhabited

namespace Domain

/-- A domain without classes. -/
def fresh (options : Options) (synthesizer : Synthesizer) (global : ObjectRef) : Domain where
  options := options
  synthesizer := synthesizer
  directory := .empty
  diagnostics := []
  global := global
  rootClass := none
  classOfClasses := none
  stats := ⟨0, 0, 0⟩

/-- The outermost scope. -/
def globalScope (d : Domain) : Scope := .global d.global

/-- The diagnostics of one class. -/
def diagnosticsOf (d : Domain) (className : String) : List Diagnostic :=
  d.diagnostics.filter (·.className = className)

/-- Count a table that defined `members` members. -/
def countTable (d : Domain) (members : Nat) : Domain :=
  { d with
    stats := { d.stats with tables := d.stats.tables + 1, members := d.stats.members + members } }

/-- Count a stub. -/
def countStub (d : Domain) : Domain :=
  { d with stats := { d.stats with stubs := d.stats.stubs + 1 } }

end Domain

end ClassLink
