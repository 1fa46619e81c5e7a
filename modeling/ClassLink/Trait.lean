import ClassLink.Name
import ClassLink.Number.Double
/-!
# Traits: the declared members of a class

A class declares its members as *traits*: methods, the two halves of accessors, and data slots.
A method trait points at a method descriptor, whose flags say among other things whether the
host is to supply the body. Such a trait is called *native*; slots never are.
-/

namespace ClassLink

/-- Eight independent properties of a method body. -/
structure MethodFlags where
  bits : UInt8
deriving DecidableEq, Repr, Inhabited

namespace MethodFlags

/-- No property holds. -/
def none : MethodFlags := ⟨0⟩

/-- The host supplies the body. -/
def native : MethodFlags := ⟨0x20⟩

/-- The properties of either operand. -/
def union (a b : MethodFlags) : MethodFlags := ⟨a.bits ||| b.bits⟩

/-- Every property of `b` is one of `a`. -/
def contains (a b : MethodFlags) : Bool := a.bits &&& b.bits == b.bits

end MethodFlags

/-- A method descriptor: where the body is found and what is declared of it. -/
structure Method where
  /-- Position in the unit of bytecode. -/
  index : UInt32
  /-- The debug name, if the unit has one. -/
  name : Option String
  parameterCount : UInt32
  flags : MethodFlags
deriving DecidableEq, Repr, Inhabited

namespace Method

/-- A method whose body is bytecode. -/
def bytecode (index : UInt32) (name : Option String) (parameterCount : UInt32) : Method :=
  ⟨index, name, parameterCount, .none⟩

/-- A method whose body is the host's. -/
def native (index : UInt32) (name : Option String) (parameterCount : UInt32) : Method :=
  ⟨index, name, parameterCount, .native⟩

/-- The body is the host's. -/
def isNative (m : Method) : Bool := m.flags.contains .native

end Method

/-- A constant that a slot starts with. -/
inductive Constant where
  | undefined
  | null
  | boolean (b : Bool)
  | int (i : Int32)
  | uint (u : UInt32)
  | number (d : Double)
  | string (s : String)
deriving DecidableEq, Repr, Inhabited

/-- A data member: where it is stored, what type it has and what it starts with. -/
structure Slot where
  /-- The declared index; 0 asks for the next free one. -/
  slotId : UInt32
  /-- The declared type; an untyped slot has none. -/
  typeName : Option QualifiedName
  /-- The declared initial value. -/
  initial : Option Constant
  isConst : Bool
deriving DecidableEq, Repr, Inhabited

/-- The four kinds of members. A getter and a setter may share a name; apart from that a name
and a kind identify a member of a trait set. -/
inductive MemberKind where
  | method
  | getter
  | setter
  | slot
deriving DecidableEq, Repr, Inhabited

/-- The word for a kind. -/
def MemberKind.word : MemberKind → String
  | .method => "method"
  | .getter => "getter"
  | .setter => "setter"
  | .slot => "slot"

/-- The kind that a word stands for. -/
def MemberKind.ofWord? (word : String) : Option MemberKind :=
  [MemberKind.method, .getter, .setter, .slot].find? (·.word = word)

/-- What a trait declares. -/
inductive Declaration where
  | method (m : Method)
  | getter (m : Method)
  | setter (m : Method)
  | slot (s : Slot)
deriving DecidableEq, Repr, Inhabited

/-- A declared member. -/
structure Trait where
  name : QualifiedName
  declaration : Declaration
deriving DecidableEq, Repr, Inhabited

/-- The two sets a class declares its members in. -/
inductive TraitSet where
  /-- Members of the class object. -/
  | «static»
  /-- Members of the instances. -/
  | «instance»
deriving DecidableEq, Repr, Inhabited

/-- The word for a trait set. -/
def TraitSet.word : TraitSet → String
  | .static => "static"
  | .instance => "instance"

/-- The trait set that a word stands for. -/
def TraitSet.ofWord? (word : String) : Option TraitSet :=
  [TraitSet.static, .instance].find? (·.word = word)

namespace Trait

/-- The text the member is installed under. -/
def key (t : Trait) : String := t.name.key

/-- The kind of the member. -/
def kind (t : Trait) : MemberKind :=
  match t.declaration with
  | .method _ => .method
  | .getter _ => .getter
  | .setter _ => .setter
  | .slot _ => .slot

/-- The method descriptor behind a method or one half of an accessor. -/
def method? (t : Trait) : Option Method :=
  match t.declaration with
  | .method m | .getter m | .setter m => some m
  | .slot _ => none

/-- The host is to supply the member. -/
def isNative (t : Trait) : Bool :=
  match t.method? with
  | some m => m.isNative
  | none => false

/-- The member runs code, as every member but a slot does. -/
def isCallable (t : Trait) : Bool := t.kind != .slot

/-- The text messages show. -/
def display (t : Trait) : String :=
  (if t.isNative then "native " else "") ++ t.kind.word ++ " " ++ t.name.display

end Trait

end ClassLink
