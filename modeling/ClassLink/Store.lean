import ClassLink.Chain
import ClassLink.Domain
import ClassLink.Log
import ClassLink.Native.Registry
import ClassLink.Object.Function
import ClassLink.Object.Property
/-!
# The store

Objects, functions, classes and domains live in a store and refer to each other by place. Places
are given out in order and never given back; a reference beyond the store reads as an empty
object, function, class or domain.

An operation that cannot fail is an `Action`. One that can is a `Run`: the store it leaves is
kept when it fails, so whatever was written before the fault stays written.
-/

namespace ClassLink

/-- An object of the store. -/
structure HeapObject where
  /-- The object that lookups continue in. -/
  parent : Option ObjectRef
  properties : PropertyTable
  /-- The class whose template or class object this is. -/
  owner : Option ClassRef
deriving Repr, Inhabited

/-- An object without properties. -/
def HeapObject.bare (parent : Option ObjectRef) : HeapObject := ⟨parent, .empty, none⟩

/-- Everything that linking reads and writes. -/
structure Store where
  objects : Array HeapObject
  functions : Array Function
  classes : Array Class
  domains : Array Domain
  natives : NativeRegistry
  log : Array LogRecord
deriving Repr, Inhabited

/-- An operation on the store. -/
abbrev Action := StateM Store

/-- An operation on the store that can fail. -/
abbrev Run := ExceptT Fault Action

namespace Store

/-- A store without objects, in which the builtin host classes are registered. -/
def initial : Store where
  objects := #[]
  functions := #[]
  classes := #[]
  domains := #[]
  natives := NativeRegistry.empty.install
  log := #[]

/-! ### Reading -/

/-- The object at a place. -/
def object (s : Store) (o : ObjectRef) : HeapObject := s.objects[o.index]?.getD (.bare none)

/-- The function at a place. -/
def function (s : Store) (f : FunctionRef) : Function := s.functions[f.index]?.getD default

/-- The class at a place. -/
def classAt (s : Store) (c : ClassRef) : Class := s.classes[c.index]?.getD default

/-- The domain at a place. -/
def domain (s : Store) (d : DomainRef) : Domain := s.domains[d.index]?.getD default

/-- The object that an object delegates to. -/
def parent (s : Store) (o : ObjectRef) : Option ObjectRef := (s.object o).parent

/-- The own properties of an object. -/
def properties (s : Store) (o : ObjectRef) : PropertyTable := (s.object o).properties

/-- The class that owns an object. -/
def owner (s : Store) (o : ObjectRef) : Option ClassRef := (s.object o).owner

/-- The template of a function. -/
def template (s : Store) (f : FunctionRef) : Option ObjectRef := (s.function f).template

/-- The class that a class derives from. -/
def base (s : Store) (c : ClassRef) : Option ClassRef := (s.classAt c).base?

/-- The name of a class. -/
def className (s : Store) (c : ClassRef) : String := (s.classAt c).name

/-! ### Writing -/

/-- Change the object at a place. -/
def modifyObject (s : Store) (o : ObjectRef) (f : HeapObject → HeapObject) : Store :=
  { s with objects := s.objects.modify o.index f }

/-- Change the function at a place. -/
def modifyFunction (s : Store) (g : FunctionRef) (f : Function → Function) : Store :=
  { s with functions := s.functions.modify g.index f }

/-- Change the class at a place. -/
def modifyClass (s : Store) (c : ClassRef) (f : Class → Class) : Store :=
  { s with classes := s.classes.modify c.index f }

/-- Change the domain at a place. -/
def modifyDomain (s : Store) (d : DomainRef) (f : Domain → Domain) : Store :=
  { s with domains := s.domains.modify d.index f }

/-- Change the own properties of an object. -/
def modifyProperties (s : Store) (o : ObjectRef) (f : PropertyTable → PropertyTable) : Store :=
  s.modifyObject o fun x => { x with properties := f x.properties }

/-- Let an object delegate to another one, or to none. -/
def setParent (s : Store) (o : ObjectRef) (parent : Option ObjectRef) : Store :=
  s.modifyObject o fun x => { x with parent := parent }

/-- Record the class that owns an object. -/
def setOwner (s : Store) (o : ObjectRef) (c : ClassRef) : Store :=
  s.modifyObject o fun x => { x with owner := some c }

/-- Record the class that a function constructs. -/
def setFunctionClass (s : Store) (f : FunctionRef) (c : ClassRef) : Store :=
  s.modifyFunction f fun x => { x with ofClass := some c }

/-- Add a record to the log. -/
def record (s : Store) (r : LogRecord) : Store := { s with log := s.log.push r }

/-- A changed entry of an array is read changed, and every other one as it was. -/
theorem getD_modify {α : Type} (xs : Array α) (i j : Nat) (f : α → α) (d : α) :
    (xs.modify i f)[j]?.getD d =
      if i = j ∧ j < xs.size then f (xs[j]?.getD d) else xs[j]?.getD d := by
  rw [Array.getElem?_modify]
  by_cases h : i = j <;> by_cases hj : j < xs.size <;> simp [h, hj]

theorem object_modifyObject (s : Store) (x y : ObjectRef) (f : HeapObject → HeapObject) :
    (s.modifyObject x f).object y =
      if x = y ∧ y.index < s.objects.size then f (s.object y) else s.object y := by
  obtain ⟨i⟩ := x
  obtain ⟨j⟩ := y
  simp [object, modifyObject, getD_modify]

theorem function_modifyFunction (s : Store) (x y : FunctionRef) (f : Function → Function) :
    (s.modifyFunction x f).function y =
      if x = y ∧ y.index < s.functions.size then f (s.function y) else s.function y := by
  obtain ⟨i⟩ := x
  obtain ⟨j⟩ := y
  simp [function, modifyFunction, getD_modify]

theorem classAt_modifyClass (s : Store) (x y : ClassRef) (f : Class → Class) :
    (s.modifyClass x f).classAt y =
      if x = y ∧ y.index < s.classes.size then f (s.classAt y) else s.classAt y := by
  obtain ⟨i⟩ := x
  obtain ⟨j⟩ := y
  simp [classAt, modifyClass, getD_modify]

theorem size_modifyClass (s : Store) (x : ClassRef) (f : Class → Class) :
    (s.modifyClass x f).classes.size = s.classes.size := Array.size_modify ..

theorem domain_modifyDomain (s : Store) (x y : DomainRef) (f : Domain → Domain) :
    (s.modifyDomain x f).domain y =
      if x = y ∧ y.index < s.domains.size then f (s.domain y) else s.domain y := by
  obtain ⟨i⟩ := x
  obtain ⟨j⟩ := y
  simp [domain, modifyDomain, getD_modify]

theorem size_modifyDomain (s : Store) (x : DomainRef) (f : Domain → Domain) :
    (s.modifyDomain x f).domains.size = s.domains.size := Array.size_modify ..

end Store

/-! ### Allocation -/

/-- A new object that delegates to the given one. -/
def newObject (parent : Option ObjectRef) : Action ObjectRef := do
  let s ← get
  set { s with objects := s.objects.push (.bare parent) }
  return ⟨s.objects.size⟩

/-- A new function. -/
def newFunction (f : Function) : Action FunctionRef := do
  let s ← get
  set { s with functions := s.functions.push f }
  return ⟨s.functions.size⟩

/-- A new class. -/
def newClass (c : Class) : Action ClassRef := do
  let s ← get
  set { s with classes := s.classes.push c }
  return ⟨s.classes.size⟩

/-- A new domain, with a global object of its own. -/
def newDomain (options : Options) (synthesizer : Synthesizer) : Action DomainRef := do
  let global ← newObject none
  let s ← get
  set { s with domains := s.domains.push (.fresh options synthesizer global) }
  return ⟨s.domains.size⟩

/-- Add a record to the log. -/
def log (r : LogRecord) : Action Unit := modify (·.record r)

/-- Keep a diagnostic in a domain, and log it. -/
def emit (d : DomainRef) (x : Diagnostic) : Action Unit := do
  let level :=
    match x.severity with
    | .warning => LogLevel.warn
    | .error => .error
  log ⟨level, LogRecord.verifyTarget, .text x.message⟩
  modify (·.modifyDomain d fun y => { y with diagnostics := y.diagnostics ++ [x] })

/-- Register an embedder's host class. -/
def registerNative (definition : NativeDefinition) : Run Unit := do
  let s ← get
  match s.natives.register definition with
  | .error fault => throw fault
  | .ok natives =>
    set { s with natives := natives }
    log (.debug LogRecord.nativesTarget ("registered native class " ++ definition.id))

end ClassLink
