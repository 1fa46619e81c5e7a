import ClassLink.Binding.Apply
import ClassLink.Binding.Build
import ClassLink.Class.Construct
import ClassLink.Class.Use
import ClassLink.Verify
/-!
# Linking

`link` turns a descriptor into a class of a domain: it allocates the class, creates it over its
base, verifies it, binds its two trait sets, installs the class-level members on the class
object and the instance members on the template, and enters the class in the directory. A base
has to be linked before the classes that derive from it.

The instance members of the class of class objects are members of every class object. A class
linked after it takes them as it is linked; the root, which is linked before it, is given them
when it is linked.
-/

namespace ClassLink

/-- Allocate a class for a descriptor, over new host objects if it names a host class. -/
def allocateFor (descriptor : ClassDescriptor) : Run ClassRef := do
  match descriptor.nativeId with
  | none => allocateBytecode descriptor
  | some id =>
    match (← get).natives.lookup id with
    | none => throw (.missingNativeClass id)
    | some definition => do
      let parts ← definition.materialize
      allocateNative descriptor id parts

/-- Where class-level native members of a class are looked up: its class object, then the
holders it declares. -/
def staticHoldersOf (k : Class) : List ObjectRef :=
  if k.isNative then k.object :: k.staticNatives.extras else []

/-- Where native instance members of a class are looked up: the template of its host
constructor, then the holders it declares. -/
def instanceHoldersOf (s : Store) (k : Class) : List ObjectRef :=
  if k.isNative then
    (k.constructor.bind s.template).toList ++ k.instanceNatives.extras
  else []

/-- Enter a class in the directory of a domain. The first root class and the first class of class
objects are remembered as such. -/
def registerClass (d : DomainRef) (c : ClassRef) : Action Unit :=
  modify fun s =>
    let k := s.classAt c
    s.modifyDomain d fun x =>
      { x with
        rootClass := if k.kind = .root then x.rootClass.or (some c) else x.rootClass
        classOfClasses :=
          if k.kind = .ofClasses then x.classOfClasses.or (some c) else x.classOfClasses
        directory := x.directory.add k.key c }

/-- Bind the class-level members of a class and install them on its class object. -/
def bindStatics (d : DomainRef) (c : ClassRef) (scope : Scope) : Action Unit := do
  let k := (← get).classAt c
  let context : BindingContext := ⟨d, .static, k.name, scope, k.staticHolders, none⟩
  let bindings ← context.build k.descriptor.staticTraits
  bindings.applyTo d k.object .replace
  modify (·.modifyClass c fun x => { x with staticBindings := some bindings })

/-- Bind the instance members of a class over those of its base, and install all of them on its
template. -/
def bindInstances (d : DomainRef) (c : ClassRef) (base : Option ClassRef) (scope : Scope) :
    Action Bindings := do
  let s ← get
  let k := s.classAt c
  let parent := base.bind fun b => (s.classAt b).instanceBindings
  let context : BindingContext := ⟨d, .instance, k.name, scope, k.instanceHolders, parent⟩
  let bindings ← context.build k.descriptor.instanceTraits
  if let some template := k.template? then bindings.applyTo d template .replace
  modify (·.modifyClass c fun x => { x with instanceBindings := some bindings })
  return bindings

/-- Give class objects the members of the class of class objects: to the root's if that class is
being linked, and otherwise to that of the class being linked. -/
def shareClassMembers (d : DomainRef) (c : ClassRef) (bindings : Bindings) : Action Unit := do
  let s ← get
  let k := s.classAt c
  let x := s.domain d
  if k.kind = .ofClasses then
    if let some root := x.rootClass then
      bindings.applyTo d (s.classAt root).object .append
  else
    if let some shared := x.classOfClasses.bind fun m => (s.classAt m).instanceBindings then
      shared.applyTo d k.object .append

/-- Link a class. -/
def link (d : DomainRef) (descriptor : ClassDescriptor) (base : Option ClassRef)
    (scope : Scope) : Run ClassRef := do
  if let .error e := descriptor.validate then throw (.descriptor e)
  let c ← allocateFor descriptor
  let s ← get
  log (.debug LogRecord.linkTarget
    ("linking " ++ descriptor.display ++ " (base: " ++ (base.map s.className).getD "none" ++ ")"))
  let inner := scope.push (.class c)
  modify (·.modifyClass c fun x => { x with scope := some inner })
  let constructor ← synthesize d descriptor.instanceInit inner false
  modify fun s => s.modifyClass c fun x =>
    { x with
      staticHolders := staticHoldersOf x
      instanceHolders := instanceHoldersOf s x }
  create d c base constructor
  if ((← get).domain d).options.verify then
    let report ← verifyClass d c
    modify (·.modifyClass c fun x => { x with verification := some report })
  bindStatics d c inner
  let bindings ← bindInstances d c base inner
  shareClassMembers d c bindings
  registerClass d c
  let s ← get
  if (s.domain d).options.trace then
    log ⟨.trace, LogRecord.linkTarget, .trace (s.trace c)⟩
  return c

end ClassLink
