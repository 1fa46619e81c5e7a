import ClassLink.Binding.Table
import ClassLink.Descriptor
import ClassLink.Fault
import ClassLink.Native.Builtins
import ClassLink.Scope
/-!
# Classes

A class in the store is its descriptor, the parts fixed when it was allocated, and the parts
that construction fills in, each at most once. Construction wires two objects to the class:

* the *template*, which carries the instance members and which every instance delegates to;
* the *delegate*, which scripts see as the class's prototype.

A class over a host constructor with a fixed template takes that template for both. Every other
class makes a delegate of its own that delegates to the delegate of its base, and a template
that delegates to the delegate.
-/

namespace ClassLink

/-- The part a class plays among the classes of a domain. -/
inductive ClassKind where
  /-- The class above all others. -/
  | root
  /-- The class of class objects. -/
  | ofClasses
  | ordinary
deriving DecidableEq, Repr, Inhabited

/-- The name of a kind. -/
def ClassKind.word : ClassKind → String
  | .root => "RootObject"
  | .ofClasses => "ClassOfClasses"
  | .ordinary => "Ordinary"

/-- Where template and delegate come from. -/
inductive Strategy where
  /-- Both are the fixed template of the host constructor. -/
  | takeover
  /-- They are made for the class. -/
  | build
deriving DecidableEq, Repr, Inhabited

/-- The name of a strategy. -/
def Strategy.word : Strategy → String
  | .takeover => "TakeoverTemplate"
  | .build => "BuildTemplate"

/-- The parts that configuring a class fills in together. Base, strategy, template and delegate are
four cells, each written once. They are kept as one record because configuring is the only operation
that writes them: it does so at its end, when every check has passed, and writing them cannot fail.
So all four are filled in or none is, and the two guards, of configuring and of creating, may ask
for any of them. -/
structure Wiring where
  base : Option ClassRef
  strategy : Strategy
  template : ObjectRef
  delegate : ObjectRef
deriving DecidableEq, Repr, Inhabited

/-- What verifying a class found. -/
structure Report where
  /-- Native members without an implementation. -/
  missingNatives : List (TraitSet × String)
  structural : List StructuralProblem
  /-- Trait sets for which the class declares no holders. -/
  inheritedHolders : List TraitSet
deriving DecidableEq, Repr

namespace Report

/-- Nothing was found. -/
def empty : Report := ⟨[], [], []⟩

/-- The number of findings. -/
def size (r : Report) : Nat :=
  r.missingNatives.length + r.structural.length + r.inheritedHolders.length

end Report

/-- A class of the store. -/
structure Class where
  descriptor : ClassDescriptor
  /-- The identifier of the host class that implements it. -/
  nativeId : Option String
  /-- The class as an object, which carries its class-level members. -/
  object : ObjectRef
  callStyle : CallStyle
  coercion : Coercion
  /-- What a slot of this type starts with. -/
  defaultValue : Value
  initFlags : InitFlags
  staticNatives : Holders ObjectRef
  instanceNatives : Holders ObjectRef
  /-- What configuring filled in. -/
  wiring : Option Wiring
  constructor : Option FunctionRef
  /-- The constructor that skips native initializers; the class is finished once it is set. -/
  constructorNoInit : Option FunctionRef
  /-- The objects in which class-level native members are looked up. -/
  staticHolders : List ObjectRef
  /-- The objects in which native instance members are looked up. -/
  instanceHolders : List ObjectRef
  staticBindings : Option Bindings
  instanceBindings : Option Bindings
  /-- The scope of the class body. -/
  scope : Option Scope
  verification : Option Report
deriving Repr, Inhabited

namespace Class

/-- The name messages show. -/
def name (c : Class) : String := c.descriptor.display

/-- The text the class is found under in its domain. -/
def key (c : Class) : String := c.descriptor.name.key

/-- The identifier of the host class decides the kind. -/
def kind (c : Class) : ClassKind :=
  if c.nativeId = some Builtins.objectClassId then .root
  else if c.nativeId = some Builtins.classClassId then .ofClasses
  else .ordinary

/-- The host implements the class. -/
def isNative (c : Class) : Bool := c.nativeId.isSome

/-- The base class, once the class is configured. -/
def base? (c : Class) : Option ClassRef := c.wiring.bind (·.base)

/-- How the class came by its template, once it is configured. -/
def strategy? (c : Class) : Option Strategy := c.wiring.map (·.strategy)

/-- What instances delegate to, once the class is configured. -/
def template? (c : Class) : Option ObjectRef := c.wiring.map (·.template)

/-- What scripts see as the prototype, once the class is configured. -/
def delegate? (c : Class) : Option ObjectRef := c.wiring.map (·.delegate)

end Class

end ClassLink
