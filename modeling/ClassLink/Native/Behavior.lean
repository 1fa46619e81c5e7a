import ClassLink.Coercion
import ClassLink.Number.Arithmetic
import ClassLink.Object.Access
import ClassLink.Text.CaseMap
/-!
# What host functions do

The effect of calling a host function on a receiver with arguments. A missing argument reads as
undefined. None of the builtin members calls a function; of the scripts, reading and writing a
property may.
-/

namespace ClassLink

/-- The argument at an index, or undefined. -/
def nthArgument (args : List Value) (i : Nat) : Value := args[i]?.getD .undefined

/-! ### Functions -/

/-- Replace the template of a function. A fixed template only accepts itself. -/
def setTemplate (f : FunctionRef) (template : ObjectRef) : Run Unit := do
  let g := (← get).function f
  if g.templateWritable then
    modify (·.modifyFunction f fun x => { x with template := some template })
  else if g.template = some template then return ()
  else throw (.breach (.templateFixed g.name))

/-! ### Mathematics -/

/-- The value of a function of mathematics. The largest and smallest argument are found from the
infinity that every number is beyond. -/
def MathFunction.value (f : MathFunction) (args : List Value) : Double :=
  let first := (nthArgument args 0).toNumber
  match f with
  | .abs => first.abs
  | .ceil => first.ceil
  | .floor => first.floor
  | .sqrt => first.sqrt
  | .round => first.round
  | .pow => first.pow (nthArgument args 1).toNumber
  | .max => (args.map Value.toNumber).foldl Double.max (.infinity true)
  | .min => (args.map Value.toNumber).foldl Double.min (.infinity false)

/-! ### Numbers and texts -/

/-- The largest count of decimal places that can be asked for. -/
def maxDecimalPlaces : Int := 20

/-- A number in the base that a value names; undefined names base ten. -/
def textInBase (n : Double) (radix : Value) : Except Fault String :=
  let base :=
    match radix with
    | .undefined => (10 : Int32)
    | r => r.toInt32
  match n.inRadix base.toInt with
  | .ok text => .ok text
  | .error .badRadix => .error (.mismatch (.badRadix (Numeral.decimal base.toInt)))
  | .error .fractional => .error (.notImplemented "Number.toString with a fractional radix")
  | .error .tooLarge =>
    .error (.notImplemented "Number.toString with a radix beyond 128-bit magnitudes")

/-- A number with the count of decimal places that a value names. -/
def textWithPlaces (n : Double) (places : Value) : Except Fault String :=
  let count := places.toInt32.toInt
  if count < 0 ∨ maxDecimalPlaces < count then
    .error (.mismatch (.digitsOutOfRange (Numeral.decimal count)))
  else .ok (n.fixed count.toNat)

/-- The character of a text at an index, as a text; the empty text where there is none. The
fraction of the index is cut off; a negative index and NaN have no character. -/
def characterAt (s : String) (index : Double) : String :=
  if index.less .zero || index.isNaN then ""
  else
    match index.truncated with
    | some i => String.ofList (s.toList[i.toNat]?.toList)
    | none => ""

/-- The least index at which a text occurs in another one, or -1. -/
def firstIndex (s needle : String) : Int32 :=
  match Text.indexOf? needle.toList s.toList with
  | some i => .ofNat i
  | none => -1

/-- The character of a 16-bit code; the codes that are halves of pairs stand for none. -/
def charOfCode (v : Value) : Char :=
  let n := v.toUInt32.toNat % 65536
  if n.isValidChar then Char.ofNat n else Char.ofNat 0xfffd

/-! ### Members -/

/-- What an operation that only looks at its operands gives. -/
def pureResult (r : Except Fault Value) : Run Value := ExceptT.mk (pure r)

/-- The effect of a member of a builtin class. -/
def Builtin.run : Builtin → Value → List Value → Run Value
  | .receiver, this, _ => return this
  | .onFirst member, _, args => member.run (nthArgument args 0) (args.drop 1)
  | .notConstructible name, _, _ => throw (.notConstructible name)
  | .notImplemented what, _, _ => throw (.notImplemented what)
  | .math f, _, args => return .number (f.value args)
  | .toObject, this, args =>
    let v := nthArgument args 0
    return if v.isNullish then this else v
  | .toBoolean, _, args => return .boolean (nthArgument args 0).toBoolean
  | .toNumber, _, args =>
    return .number (match args with
      | [] => .zero
      | v :: _ => v.toNumber)
  | .toInt32, _, args => return .int (nthArgument args 0).toInt32
  | .toUInt32, _, args => return .uint (nthArgument args 0).toUInt32
  | .toText, _, args =>
    return .string (match args with
      | [] => ""
      | v :: _ => v.toText)
  | .hasOwnProperty, this, args => do
    let s ← get
    match this with
    | .object o => return .boolean ((s.properties o).contains (nthArgument args 0).toText)
    | _ => return .boolean false
  | .propertyIsEnumerable, this, args => do
    let s ← get
    match this with
    | .object o => return .boolean ((s.properties o).isEnumerable (nthArgument args 0).toText)
    | _ => return .boolean false
  | .isPrototypeOf, this, args => do
    let s ← get
    match this, nthArgument args 0 with
    | .object o, .object x => return .boolean (s.inheritsFrom x o)
    | _, _ => return .boolean false
  | .setPropertyIsEnumerable member, this, args => do
    match this with
    | .object o =>
      let key := (nthArgument args 0).toText
      let on := (nthArgument args 1).toBoolean
      modify (·.modifyProperties o (·.setEnumerable key on))
      return .undefined
    | v => throw (.mismatch (.badReceiver member v.typeName))
  | .describe, this, _ => do
    let s ← get
    match this with
    | .object o => return .string ("[object " ++ s.classNameOf o ++ "]")
    | v => return .string v.toText
  | .classPrototype, this, _ => do
    let s ← get
    match this with
    | .object o =>
      match s.owner o with
      | none => throw (.mismatch .notAClass)
      | some c =>
        match (s.classAt c).delegate? with
        | some x => return .object x
        | none => return .undefined
    | v => throw (.mismatch (.badReceiver "Class.prototype" v.typeName))
  | .functionPrototype, this, _ => do
    let s ← get
    match this with
    | .function f =>
      match s.template f with
      | some x => return .object x
      | none => return .undefined
    | _ => throw (.mismatch .notAFunction)
  | .setFunctionPrototype, this, args => do
    match this, nthArgument args 0 with
    | .function f, .object o =>
      setTemplate f o
      return .undefined
    | .function _, _ => throw (.mismatch .prototypeNotAnObject)
    | _, _ => throw (.mismatch .notAFunction)
  | .functionLength, this, _ => do
    let s ← get
    match this with
    | .function f => return .int (s.function f).arity.toInt32
    | _ => return .int 0
  | .booleanText, this, _ => return .string (Value.boolean this.toBoolean).toText
  | .booleanValue, this, _ => return .boolean this.toBoolean
  | .numberText, this, args =>
    pureResult ((textInBase this.toNumber (nthArgument args 0)).map .string)
  | .numberValue, this, _ => return .number this.toNumber
  | .numberFixed, this, args =>
    pureResult ((textWithPlaces this.toNumber (nthArgument args 0)).map .string)
  | .charAt, this, args => return .string (characterAt this.toText (nthArgument args 0).toNumber)
  | .indexOf, this, args => return .int (firstIndex this.toText (nthArgument args 0).toText)
  | .toUpperCase, this, _ => return .string (Text.toCapitals this.toText)
  | .toLowerCase, this, _ => return .string (Text.toSmall this.toText)
  | .stringLength, this, _ => return .int (.ofNat this.toText.length)
  | .fromCharCode, _, args => return .string (String.ofList (args.map charOfCode))

/-- The effect of an embedder's script. Reading and writing a property of a receiver that is no
object does nothing. -/
def Script.run (invoke : Invoke) : Script → Value → List Value → Run Value
  | .constant v, _, _ => return v
  | .receiver, this, _ => return this
  | .argumentCount, _, args => return .int (.ofNat args.length)
  | .argument i, _, args => return nthArgument args i
  | .load key, this, _ =>
    match this with
    | .object o => readProperty invoke o key
    | _ => return .undefined
  | .store key, this, args => do
    if let .object o := this then writeProperty invoke o key (nthArgument args 0)
    return .undefined
  | .fresh parent, _, _ => return .object (← newObject parent.object?)
  | .fail fault, _, _ => throw fault

/-- The effect of a host function. -/
def HostFunction.run (invoke : Invoke) : HostFunction → Value → List Value → Run Value
  | .script s => s.run invoke
  | .builtin b => b.run

end ClassLink
