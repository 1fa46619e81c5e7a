import ClassLink.Native.Behavior
import ClassLink.Native.Materialize
/-!
# Constructing classes

A class is allocated, configured and created. Configuring wires template and delegate to the
class and its base; it is done once, and a call that fails leaves the class as it was. Creating
configures the class, settles its constructor and marks the class as finished.
-/

namespace ClassLink

/-! ### Allocation -/

/-- Store a class and make it the owner of its class object. -/
def allocate (c : Class) : Action ClassRef := do
  let ref ← newClass c
  modify (·.setOwner c.object ref)
  return ref

/-- Allocate a class of bytecode: it coerces when it is called, to its own instances. -/
def allocateBytecode (descriptor : ClassDescriptor) : Action ClassRef := do
  allocate {
    descriptor := descriptor
    nativeId := none
    object := ← newObject none
    callStyle := .coerce
    coercion := .instance
    defaultValue := .null
    initFlags := .none
    staticNatives := .own []
    instanceNatives := .own []
    wiring := none
    constructor := none
    constructorNoInit := none
    staticHolders := []
    instanceHolders := []
    staticBindings := none
    instanceBindings := none
    scope := none
    verification := none }

/-- Allocate a class over the host objects made for it. -/
def allocateNative (descriptor : ClassDescriptor) (id : String) (parts : NativeParts) :
    Action ClassRef :=
  allocate {
    descriptor := descriptor
    nativeId := some id
    object := parts.classObject
    callStyle := parts.callStyle
    coercion := parts.coercion
    defaultValue := parts.defaultValue
    initFlags := parts.initFlags
    staticNatives := parts.staticNatives
    instanceNatives := parts.instanceNatives
    wiring := none
    constructor := parts.constructor
    constructorNoInit := none
    staticHolders := []
    instanceHolders := []
    staticBindings := none
    instanceBindings := none
    scope := none
    verification := none }

/-! ### Configuring -/

/-- The fixed template of the host constructor, if the class has such a constructor. -/
def fixedTemplate? (s : Store) (k : Class) : Except Fault (Option ObjectRef) :=
  match k.constructor with
  | none => .ok none
  | some f =>
    let g := s.function f
    if g.templateWritable then .ok none
    else
      match g.template with
      | some t => .ok (some t)
      | none => .error (.breach (.fixedTemplateMissing k.name))

/-- What the delegate of a class is to delegate to: the delegate of its base. -/
def delegateParent? (s : Store) (k : Class) (base : Option ClassRef) :
    Except Fault (Option ObjectRef) :=
  match base with
  | none => .ok none
  | some b =>
    match (s.classAt b).delegate? with
    | some o => .ok (some o)
    | none => .error (.breach (.baseNotFinalized (s.className b) k.name))

/-- Make a delegate, and a template that delegates to it. A template that the constructor
already has is kept and given the delegate as its parent. -/
def buildTemplates (k : Class) (base : Option ClassRef) (parent : Option ObjectRef) :
    Action Wiring := do
  let delegate ← newObject parent
  match k.constructor.bind (← get).template with
  | some template =>
    modify (·.setParent template (some delegate))
    return ⟨base, .build, template, delegate⟩
  | none => return ⟨base, .build, ← newObject (some delegate), delegate⟩

/-- Wire a class to its base, its template and its delegate. -/
def configure (c : ClassRef) (base : Option ClassRef) : Run Unit := do
  let s ← get
  let k := s.classAt c
  if k.wiring.isSome then throw (.breach (.alreadyConfigured k.name))
  let wiring ←
    match ← liftExcept (fixedTemplate? s k) with
    | some template => pure ⟨base, .takeover, template, template⟩
    | none => do
      let parent ← liftExcept (delegateParent? s k base)
      buildTemplates k base parent
  modify (·.modifyClass c fun x => { x with wiring := some wiring })
where
  /-- Fail as a check did. -/
  liftExcept {α : Type} (r : Except Fault α) : Run α := ExceptT.mk (pure r)

/-! ### Creating -/

/-- Offer a class its constructor. A class that has one keeps it, which is a finding. -/
def setConstructor (d : DomainRef) (c : ClassRef) (f : FunctionRef) : Action Bool := do
  let k := (← get).classAt c
  match k.constructor with
  | none =>
    modify (·.modifyClass c fun x => { x with constructor := some f })
    return true
  | some _ =>
    emit d (.warning k.name .ignoredConstructor)
    return false

/-- Configure a class and settle its constructor; the class is finished. -/
def create (d : DomainRef) (c : ClassRef) (base : Option ClassRef) (offered : FunctionRef) :
    Run Unit := do
  let k := (← get).classAt c
  if k.constructorNoInit.isSome then throw (.breach (.constructorAlreadySet k.name))
  if k.wiring.isSome then throw (.breach (.templatesAlreadySet k.name))
  configure c base
  let _ ← setConstructor d c offered
  let k := (← get).classAt c
  match k.constructor, k.wiring with
  | none, _ => throw (.breach (.noConstructor k.name))
  | _, none => throw (.breach (.noTemplate k.name))
  | some f, some w =>
    modify (·.modifyClass c fun x => { x with constructorNoInit := some f })
    modify (·.setFunctionClass f c)
    setTemplate f w.template
    modify (·.setOwner w.template c)
    modify (·.setOwner w.delegate c)

end ClassLink
