import ClassLink.Trait
/-!
# Runtime values

Scripts work with nine kinds of values. Objects and functions live in a store and are values by
reference: two references are equal if they point at the same place. Numbers are equal across
their three kinds if they are the same number.
-/

namespace ClassLink

/-- The place of an object in the store. -/
structure ObjectRef where
  index : Nat
deriving DecidableEq, Repr, Inhabited

/-- The place of a function in the store. -/
structure FunctionRef where
  index : Nat
deriving DecidableEq, Repr, Inhabited

/-- The place of a linked or allocated class in the store. -/
structure ClassRef where
  index : Nat
deriving DecidableEq, Repr, Inhabited

/-- The place of a linking domain in the store. -/
structure DomainRef where
  index : Nat
deriving DecidableEq, Repr, Inhabited

/-- A value a script can hold. -/
inductive Value where
  | undefined
  | null
  | boolean (b : Bool)
  /-- A signed 32-bit integer. -/
  | int (i : Int32)
  /-- An unsigned 32-bit integer. -/
  | uint (u : UInt32)
  /-- A double. -/
  | number (d : Double)
  | string (s : String)
  | object (o : ObjectRef)
  | function (f : FunctionRef)
deriving DecidableEq, Repr, Inhabited

namespace Value

/-- Null or undefined: no value was given. -/
def isNullish : Value → Bool
  | .undefined | .null => true
  | _ => false

/-- Of one of the three kinds of numbers. -/
def isNumeric : Value → Bool
  | .int _ | .uint _ | .number _ => true
  | _ => false

/-- The number that a value of one of the three kinds is. -/
def numeric? : Value → Option Double
  | .int i => some (.ofInt i.toInt)
  | .uint u => some (.ofNat u.toNat)
  | .number d => some d
  | _ => none

/-- The object that a value refers to. -/
def object? : Value → Option ObjectRef
  | .object o => some o
  | _ => none

/-- The function that a value refers to. -/
def function? : Value → Option FunctionRef
  | .function f => some f
  | _ => none

/-- The word for the kind of a value in messages. -/
def typeName : Value → String
  | .undefined => "undefined"
  | .null => "null"
  | .boolean _ => "Boolean"
  | .int _ => "int"
  | .uint _ => "uint"
  | .number _ => "Number"
  | .string _ => "String"
  | .object _ => "Object"
  | .function _ => "Function"

/-- Strict equality: kinds do not mix, except that numbers are compared as numbers. NaN differs
from itself. -/
def equal : Value → Value → Bool
  | .undefined, .undefined => true
  | .null, .null => true
  | .boolean a, .boolean b => a == b
  | .string a, .string b => a == b
  | .object a, .object b => a == b
  | .function a, .function b => a == b
  | a, b =>
    match a.numeric?, b.numeric? with
    | some x, some y => x.equal y
    | _, _ => false

/-- The constant that a value is; objects and functions are none. -/
def constant? : Value → Option Constant
  | .undefined => some .undefined
  | .null => some .null
  | .boolean b => some (.boolean b)
  | .int i => some (.int i)
  | .uint u => some (.uint u)
  | .number d => some (.number d)
  | .string s => some (.string s)
  | .object _ | .function _ => none

end Value

/-- The value that a constant stands for. -/
def Constant.value : Constant → Value
  | .undefined => .undefined
  | .null => .null
  | .boolean b => .boolean b
  | .int i => .int i
  | .uint u => .uint u
  | .number x => .number x
  | .string s => .string s

end ClassLink
