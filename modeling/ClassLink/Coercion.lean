import ClassLink.Fault
import ClassLink.Number.Format
import ClassLink.Text.Blank
import ClassLink.Text.Search
import ClassLink.Value
/-!
# Conversions between values

Four readings are defined for every value: as a number, as a truth, as a text and as a 32-bit
integer in either of its two forms. A class that is called as a function applies one of the
*coercions* built from them.
-/

namespace ClassLink

/-- The largest number that the digits of a hexadecimal text may stand for. -/
def hexLimit : Nat := UInt64.size

/-- The number that follows a hexadecimal mark: one plus sign is allowed, at least one digit is
needed, and the value must fit in 64 bits. -/
def hexNumber (cs : List Char) : Double :=
  let figures := match cs with
    | '+' :: r => r
    | r => r
  match figures, Numeral.toNat? 16 figures with
  | _ :: _, some n => if n < hexLimit then .ofNat n else .nan
  | _, _ => .nan

/-- A letter that no decimal numeral contains. -/
def isForeignLetter (c : Char) : Bool := c.isAlpha && c != 'e' && c != 'E'

/-- The number that a text reads as. Blanks around it are dropped; the empty text is zero; the
infinities are spelled out; a hexadecimal mark announces a natural number; all else must be a
decimal numeral, and reads as NaN if it is none. -/
def textToNumber (s : String) : Double :=
  let cs := Text.trim s.toList
  if cs.isEmpty then .zero
  else if cs = "Infinity".toList ∨ cs = "+Infinity".toList then .infinity false
  else if cs = "-Infinity".toList then .infinity true
  else
    match cs with
    | '0' :: 'x' :: r | '0' :: 'X' :: r => hexNumber r
    | _ =>
      if cs.any isForeignLetter then .nan
      else (Numeral.toDouble? cs).getD .nan

namespace Value

/-- The value as a number; what has no number is NaN. -/
def toNumber : Value → Double
  | .undefined => .nan
  | .null => .zero
  | .boolean b => if b then .ofNat 1 else .zero
  | .int i => .ofInt i.toInt
  | .uint u => .ofNat u.toNat
  | .number d => d
  | .string s => textToNumber s
  | .object _ | .function _ => .nan

/-- The value as a truth: zeros, NaN, the empty text and the two missing values are false. -/
def toBoolean : Value → Bool
  | .undefined | .null => false
  | .boolean b => b
  | .int i => i != 0
  | .uint u => u != 0
  | .number d => !d.isNaN && !d.equal .zero
  | .string s => !s.isEmpty
  | .object _ | .function _ => true

/-- The value as a text. -/
def toText : Value → String
  | .undefined => "undefined"
  | .null => "null"
  | .boolean b => if b then "true" else "false"
  | .int i => Numeral.decimal i.toInt
  | .uint u => Numeral.decimal u.toNat
  | .number d => d.display
  | .string s => s
  | .object _ => "[object Object]"
  | .function _ => "function Function() \x7b\x7d"

end Value

namespace Double

/-- The integer part modulo 2³², between -2³¹ and 2³¹ - 1; 0 for NaN and the infinities. The upper
half of the remainders stands for the negative numbers. -/
def toInt32 (d : Double) : Int32 :=
  if !d.isFinite then 0
  else
    let m := d.trunc.remEuclid (.ofNat 4294967296)
    let n := if m.atLeast (.ofNat 2147483648) then m.sub (.ofNat 4294967296) else m
    .ofInt (n.held (-2147483648) 2147483647)

/-- The integer part modulo 2³², from 0 on; 0 for NaN and the infinities. -/
def toUInt32 (d : Double) : UInt32 :=
  if !d.isFinite then 0
  else .ofInt ((d.trunc.remEuclid (.ofNat 4294967296)).held 0 4294967295)

end Double

namespace Value

/-- The value as a signed 32-bit integer. -/
def toInt32 : Value → Int32
  | .int i => i
  | .uint u => u.toInt32
  | v => v.toNumber.toInt32

/-- The value as an unsigned 32-bit integer. -/
def toUInt32 : Value → UInt32
  | .uint u => u
  | .int i => i.toUInt32
  | v => v.toNumber.toUInt32

end Value

/-- The value domain of a class. -/
inductive Coercion where
  /-- Every value, unchanged. -/
  | any
  /-- Every value but undefined, unchanged. -/
  | object
  | int
  | uint
  | number
  | boolean
  /-- Texts; the missing values become null. -/
  | string
  /-- The instances of the class; this needs the class, and is left to it. -/
  | «instance»
deriving DecidableEq, Repr, Inhabited

/-- The name of a coercion. -/
def Coercion.word : Coercion → String
  | .any => "Any"
  | .object => "Object"
  | .int => "Int"
  | .uint => "UInt"
  | .number => "Number"
  | .boolean => "Boolean"
  | .string => "String"
  | .instance => "Instance"

/-- The coercion of a name. -/
def Coercion.ofWord? (word : String) : Option Coercion :=
  [Coercion.any, .object, .int, .uint, .number, .boolean, .string, .instance].find?
    (·.word = word)

/-- Undefined is no object; all else passes. -/
def Value.toObject (v : Value) : Except Fault Value :=
  match v with
  | .undefined => .error (.mismatch (.uncoercible "undefined" "Object"))
  | v => .ok v

/-- Apply a coercion, as far as it does not depend on a class. -/
def Coercion.apply (c : Coercion) (v : Value) : Except Fault Value :=
  match c with
  | .any | .instance => .ok v
  | .object => v.toObject
  | .int => .ok (.int v.toInt32)
  | .uint => .ok (.uint v.toUInt32)
  | .number => .ok (.number v.toNumber)
  | .boolean => .ok (.boolean v.toBoolean)
  | .string => .ok (if v.isNullish then .null else .string v.toText)

end ClassLink
