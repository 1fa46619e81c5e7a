import ClassLink.Coercion
import ClassLink.Native.HostFunction
/-!
# Definitions of host classes

A host class is described once and built afresh for every class linked against it. The
description names the members of the class object, the constructor with the members of its
template, and the further *holders* in which the class's native members are looked up.
-/

namespace ClassLink

/-- What calling a class as a function does. -/
inductive CallStyle where
  /-- The instance constructor runs as a plain function. -/
  | passThrough
  /-- The first argument is coerced to the class's value domain. -/
  | coerce
deriving DecidableEq, Repr, Inhabited

/-- The name of a call style. -/
def CallStyle.word : CallStyle → String
  | .passThrough => "PassThrough"
  | .coerce => "Coerce"

/-- Which native initializers run for an instance. -/
structure InitFlags where
  /-- The class has one of its own. -/
  own : Bool
  /-- A class above it has one. -/
  super : Bool
deriving DecidableEq, Repr, Inhabited

/-- No native initializer runs. -/
def InitFlags.none : InitFlags := ⟨false, false⟩

/-- The holders that are searched after the class's own objects. -/
inductive Holders (α : Type) where
  /-- The class declares none and falls back on those of the root, which has none. -/
  | inherited
  /-- The class declares these. -/
  | own (holders : List α)
deriving DecidableEq, Repr, Inhabited

namespace Holders

/-- The holders in the order of search. -/
def extras {α : Type} : Holders α → List α
  | .inherited => []
  | .own holders => holders

/-- The class declares no holders. -/
def isInherited {α : Type} : Holders α → Bool
  | .inherited => true
  | .own _ => false

end Holders

/-- What one member of a holder is. -/
inductive MemberBody where
  | method (arity : UInt32) (f : HostFunction)
  | getter (f : HostFunction)
  | setter (f : HostFunction)
  | value (v : Value)
deriving DecidableEq, Repr, Inhabited

/-- A named member of a holder. -/
structure HolderMember where
  name : String
  body : MemberBody
deriving DecidableEq, Repr, Inhabited

/-- The description of an object that holds host functions. -/
structure HolderDefinition where
  /-- What the names of its functions begin with. -/
  label : String
  members : List HolderMember
deriving DecidableEq, Repr, Inhabited

namespace HolderDefinition

/-- A holder without members. -/
def empty (label : String) : HolderDefinition := ⟨label, []⟩

/-- The holder with one member more. -/
def add (h : HolderDefinition) (name : String) (body : MemberBody) : HolderDefinition :=
  { h with members := h.members ++ [⟨name, body⟩] }

/-- Add a method of the builtin classes. -/
def method (h : HolderDefinition) (name : String) (arity : UInt32) (b : Builtin) :
    HolderDefinition :=
  h.add name (.method arity (.builtin b))

/-- Add a getter of the builtin classes. -/
def getter (h : HolderDefinition) (name : String) (b : Builtin) : HolderDefinition :=
  h.add name (.getter (.builtin b))

/-- Add a setter of the builtin classes. -/
def setter (h : HolderDefinition) (name : String) (b : Builtin) : HolderDefinition :=
  h.add name (.setter (.builtin b))

/-- Add a method that is declared but has no body. -/
def unimplemented (h : HolderDefinition) (name : String) (arity : UInt32) : HolderDefinition :=
  h.method name arity (.notImplemented (h.label ++ "." ++ name))

end HolderDefinition

/-- The description of a host constructor. -/
structure ConstructorDefinition where
  name : String
  arity : UInt32
  /-- The template can neither be replaced nor given another parent. -/
  templateFixed : Bool
  call : HostFunction
  /-- What runs in place of the body when an instance is constructed. -/
  construct : Option HostFunction
  /-- The members of the template. -/
  prototype : HolderDefinition
deriving DecidableEq, Repr, Inhabited

namespace ConstructorDefinition

/-- A constructor whose body runs on the new instance, and whose template has no members. -/
def simple (name : String) (arity : UInt32) (call : HostFunction) : ConstructorDefinition where
  name := name
  arity := arity
  templateFixed := false
  call := call
  construct := none
  prototype := .empty (name ++ ".prototype")

/-- A constructor of the builtin classes. -/
def builtin (name : String) (arity : UInt32) (call : Builtin) : ConstructorDefinition :=
  simple name arity (.builtin call)

/-- Fix the template. -/
def fixed (c : ConstructorDefinition) : ConstructorDefinition := { c with templateFixed := true }

/-- Construct by a member of the builtin classes. -/
def constructBy (c : ConstructorDefinition) (b : Builtin) : ConstructorDefinition :=
  { c with construct := some (.builtin b) }

/-- Give the template its members. -/
def withPrototype (c : ConstructorDefinition) (h : HolderDefinition) : ConstructorDefinition :=
  { c with prototype := h }

end ConstructorDefinition

/-- The description of a host class. -/
structure NativeDefinition where
  id : String
  /-- The members of the class object. -/
  statics : HolderDefinition
  constructor : Option ConstructorDefinition
  /-- The further holders of class-level members. -/
  staticNatives : Holders HolderDefinition
  /-- The further holders of instance members. -/
  instanceNatives : Holders HolderDefinition
  callStyle : CallStyle
  coercion : Coercion
  /-- What a slot of this type starts with. -/
  defaultValue : Value
  initFlags : InitFlags
deriving DecidableEq, Repr, Inhabited

namespace NativeDefinition

/-- A class without members that declares empty lists of holders. -/
def bare (id : String) : NativeDefinition where
  id := id
  statics := .empty id
  constructor := none
  staticNatives := .own []
  instanceNatives := .own []
  callStyle := .passThrough
  coercion := .instance
  defaultValue := .null
  initFlags := .none

/-- Declare no holders. -/
def inheritHolders (d : NativeDefinition) : NativeDefinition :=
  { d with staticNatives := .inherited, instanceNatives := .inherited }

/-- Coerce when called. -/
def coerceWith (d : NativeDefinition) (c : Coercion) : NativeDefinition :=
  { d with callStyle := .coerce, coercion := c }

end NativeDefinition

end ClassLink
