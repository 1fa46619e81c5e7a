import ClassLink.Fault
import ClassLink.Value
/-!
# Host functions

A function whose body the host supplies. Two families exist: the members of the builtin classes, and
short scripts in which an embedder says what a function of its own does. Both are data; what they do
to a store is said where functions are called. Scripts are the forms of code that a store can hold.
An embedder may have any code run in their place, and operations that run code are therefore given
the way in which functions are called.
-/

namespace ClassLink

/-- What an embedder's function does when it is called, in the forms that a store holds. -/
inductive Script where
  /-- Gives a fixed value. -/
  | constant (v : Value)
  /-- Gives the receiver. -/
  | receiver
  /-- Gives the number of arguments. -/
  | argumentCount
  /-- Gives one argument, or undefined. -/
  | argument (i : Nat)
  /-- Reads a property of the receiver. -/
  | load (key : String)
  /-- Writes the first argument to a property of the receiver. -/
  | store (key : String)
  /-- Makes an object that delegates to the given one. -/
  | fresh (parent : Value)
  /-- Fails. -/
  | fail (fault : Fault)
deriving DecidableEq, Repr, Inhabited

/-- The functions of mathematics. -/
inductive MathFunction where
  | abs
  | ceil
  | floor
  | sqrt
  | round
  | pow
  | max
  | min
deriving DecidableEq, Repr, Inhabited

/-- What a member of a builtin class does when it is called. -/
inductive Builtin where
  /-- Gives the receiver. -/
  | receiver
  /-- Runs a member with the first argument as receiver and the rest as arguments. -/
  | onFirst (member : Builtin)
  /-- Fails: the class cannot be constructed. -/
  | notConstructible (name : String)
  /-- Fails: the member has no body. -/
  | notImplemented (what : String)
  | math (f : MathFunction)
  /-- Gives the first argument, or the receiver if it is missing. -/
  | toObject
  /-- Gives the first argument as a truth. -/
  | toBoolean
  /-- Gives the first argument as a number, or zero if there is none. -/
  | toNumber
  /-- Gives the first argument as a signed integer. -/
  | toInt32
  /-- Gives the first argument as an unsigned integer. -/
  | toUInt32
  /-- Gives the first argument as a text, or the empty text if there is none. -/
  | toText
  | hasOwnProperty
  | propertyIsEnumerable
  | isPrototypeOf
  /-- Shows or hides a property; `member` is the name under which a bad receiver is reported. -/
  | setPropertyIsEnumerable (member : String)
  /-- Gives the text of an object, which names its class. -/
  | describe
  /-- Gives the object that instances of the receiver, a class object, delegate to. -/
  | classPrototype
  /-- Gives the template of the receiver, a function. -/
  | functionPrototype
  /-- Replaces the template of the receiver, a function. -/
  | setFunctionPrototype
  /-- Gives the number of declared parameters of the receiver. -/
  | functionLength
  /-- Gives the receiver as a truth, in words. -/
  | booleanText
  /-- Gives the receiver as a truth. -/
  | booleanValue
  /-- Gives the receiver as a number in a base. -/
  | numberText
  /-- Gives the receiver as a number. -/
  | numberValue
  /-- Gives the receiver as a number with a fixed count of decimal places. -/
  | numberFixed
  /-- Gives one character of the receiver. -/
  | charAt
  /-- Gives the least index at which the first argument occurs in the receiver. -/
  | indexOf
  | toUpperCase
  | toLowerCase
  /-- Gives the number of characters of the receiver. -/
  | stringLength
  /-- Gives the text of the characters whose numbers are the arguments. -/
  | fromCharCode
deriving DecidableEq, Repr, Inhabited

/-- A function body of the host's. -/
inductive HostFunction where
  | script (s : Script)
  | builtin (b : Builtin)
deriving DecidableEq, Repr, Inhabited

end ClassLink
