import ClassLink.Object.Call
/-!
# Using classes

A class constructs instances, is called as a function, coerces values to its domain and tells
its instances from other values.
-/

namespace ClassLink

namespace Store

/-- A number is an instance of a class of 32-bit integers if it is one of them. -/
def isWithin (low high : Int) (d : Double) : Bool :=
  match d.toInt? with
  | some n => low ≤ n && n ≤ high
  | none => false

/-- A value is an instance of a class. Objects are if the template is on their delegation chain,
or is the object; functions are for the root class and the class of functions; other values are
if the class coerces to their kind. -/
def isInstance (s : Store) (c : ClassRef) (v : Value) : Bool :=
  let k := s.classAt c
  match v with
  | .object o =>
    match k.template? with
    | some t => o = t || s.inheritsFrom o t
    | none => false
  | .function _ => k.kind = .root || k.nativeId = some Builtins.functionClassId
  | .boolean _ => k.coercion = .boolean
  | .int _ => k.coercion = .int || k.coercion = .number
  | .uint _ => k.coercion = .uint || k.coercion = .number
  | .number d =>
    match k.coercion with
    | .number => true
    | .int => isWithin (-2147483648) 2147483647 d
    | .uint => isWithin 0 4294967295 d
    | _ => false
  | .string _ => k.coercion = .string
  | .undefined | .null => false

/-- The test that scripts make; for the root class every value but the missing ones passes. -/
def passesInstanceTest (s : Store) (c : ClassRef) (v : Value) : Bool :=
  if (s.classAt c).kind = .root then !v.isNullish else s.isInstance c v

/-- Coerce a value to the domain of a class. A class that coerces to its instances turns the
missing values into null and refuses all other values. -/
def coerce (s : Store) (c : ClassRef) (v : Value) : Except Fault Value :=
  let k := s.classAt c
  match k.coercion with
  | .instance =>
    if v.isNullish then .ok .null
    else if s.isInstance c v then .ok v
    else .error (.mismatch (.uncoercible v.typeName k.name))
  | other => other.apply v

end Store

/-- Coerce a value to the domain of a class. -/
def coerceTo (c : ClassRef) (v : Value) : Run Value := do
  pureResult ((← get).coerce c v)

/-- Construct an instance of a class, when functions are called by `invoke`. -/
def constructBy (invoke : Invoke) (c : ClassRef) (args : List Value) : Run Value := do
  let k := (← get).classAt c
  match k.constructor with
  | none => throw (.notConstructible k.name)
  | some f => instantiateBy invoke f args

/-- Construct an instance of a class with the functions of the store. -/
def construct (c : ClassRef) (args : List Value) : Run Value := constructBy call c args

/-- Run the constructor as a plain function, as some classes do when they are called. -/
def passThrough (c : ClassRef) (this : Value) (args : List Value) : Run Value := do
  let k := (← get).classAt c
  if k.callStyle ≠ .passThrough then throw (.breach (.notPassedThrough k.name))
  match k.constructor with
  | none => throw (.notConstructible k.name)
  | some f => call f this args

/-- Coerce the first argument, as the other classes do when they are called. -/
def coerceCall (c : ClassRef) (args : List Value) : Run Value := do
  let k := (← get).classAt c
  if k.callStyle ≠ .coerce then throw (.breach (.notCoercing k.name))
  coerceTo c (nthArgument args 0)

/-- Call a class as a function. -/
def callClass (c : ClassRef) (this : Value) (args : List Value) : Run Value := do
  match ((← get).classAt c).callStyle with
  | .passThrough => passThrough c this args
  | .coerce => coerceCall c args

/-- The wiring of a class as it is now. -/
def Store.trace (s : Store) (c : ClassRef) : ClassTrace :=
  let k := s.classAt c
  let named (f : FunctionRef) : FunctionRef × String := (f, (s.function f).name)
  { name := k.name
    base := k.base?.map s.className
    strategy := k.strategy?
    callStyle := k.callStyle
    constructor := k.constructor.map named
    constructorNoInit := k.constructorNoInit.map named
    template := k.template?
    templateParent := k.template?.bind s.parent
    delegate := k.delegate?
    delegateParent := k.delegate?.bind s.parent
    constructorTemplate := k.constructor.bind s.template }

end ClassLink
