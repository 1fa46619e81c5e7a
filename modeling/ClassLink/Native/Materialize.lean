import ClassLink.Store
/-!
# From definitions to objects

A definition is built afresh for every class that is linked against it, so that no two classes
share host objects. A holder becomes an object with its members; the name of each function is
the holder's label and the member's name.
-/

namespace ClassLink

/-- The host objects of one class. -/
structure NativeParts where
  classObject : ObjectRef
  constructor : Option FunctionRef
  staticNatives : Holders ObjectRef
  instanceNatives : Holders ObjectRef
  callStyle : CallStyle
  coercion : Coercion
  defaultValue : Value
  initFlags : InitFlags
deriving Repr, Inhabited

namespace HolderMember

/-- Define the member on an object. -/
def install (m : HolderMember) (label : String) (o : ObjectRef) : Action Unit := do
  let name := label ++ "." ++ m.name
  match m.body with
  | .method arity g =>
    let f ← newFunction (.host name arity g)
    modify (·.modifyProperties o (·.defineMethod m.name f))
  | .getter g =>
    let f ← newFunction (.host ("get " ++ name) 0 g)
    modify (·.modifyProperties o (·.defineGetter m.name f))
  | .setter g =>
    let f ← newFunction (.host ("set " ++ name) 1 g)
    modify (·.modifyProperties o (·.defineSetter m.name f))
  | .value v => modify (·.modifyProperties o (·.defineValue m.name v))

end HolderMember

/-- A new object with the members of a holder. -/
def HolderDefinition.instantiate (h : HolderDefinition) : Action ObjectRef := do
  let o ← newObject none
  h.members.forM fun m => m.install h.label o
  return o

/-- New objects for a list of holders. -/
def Holders.instantiate : Holders HolderDefinition → Action (Holders ObjectRef)
  | .inherited => return .inherited
  | .own holders => return .own (← holders.mapM HolderDefinition.instantiate)

/-- A new function for a constructor, with a new template. -/
def ConstructorDefinition.instantiate (c : ConstructorDefinition) : Action FunctionRef := do
  let template ← c.prototype.instantiate
  newFunction (.hostConstructor c.name c.arity c.call c.construct template !c.templateFixed)

/-- New objects for a host class. -/
def NativeDefinition.materialize (d : NativeDefinition) : Action NativeParts := do
  let classObject ← d.statics.instantiate
  let constructor ←
    match d.constructor with
    | none => pure none
    | some c => some <$> c.instantiate
  let staticNatives ← d.staticNatives.instantiate
  let instanceNatives ← d.instanceNatives.instantiate
  return {
    classObject := classObject
    constructor := constructor
    staticNatives := staticNatives
    instanceNatives := instanceNatives
    callStyle := d.callStyle
    coercion := d.coercion
    defaultValue := d.defaultValue
    initFlags := d.initFlags }

/-- The parts of a host class without members. -/
def NativeParts.bare : Action NativeParts := do
  return {
    classObject := ← newObject none
    constructor := none
    staticNatives := .own []
    instanceNatives := .own []
    callStyle := .passThrough
    coercion := .instance
    defaultValue := .null
    initFlags := .none }

end ClassLink
