import ClassLink.Native.HostFunction
import ClassLink.Scope
import ClassLink.Trait
/-!
# Functions

A function in the store is a host function, a body made from bytecode, or a stub that stands
for a native member nobody implements. A function with a *template* constructs: the new object
delegates to the template.
-/

namespace ClassLink

/-- What runs when a function is called. -/
inductive FunctionBody where
  | host (f : HostFunction)
  /-- Made from a method of bytecode, in a scope; `entry` is what the maker lets it do. -/
  | bytecode (method : Method) (scope : Scope) (checksInit : Bool) (entry : HostFunction)
  /-- Calling it fails. -/
  | unresolved (traitName className : String)
deriving DecidableEq, Repr, Inhabited

/-- A function of the store. -/
structure Function where
  name : String
  arity : UInt32
  body : FunctionBody
  /-- What runs in place of the body when an instance is constructed. -/
  constructHook : Option HostFunction
  /-- What constructed instances delegate to. -/
  template : Option ObjectRef
  /-- The template may be replaced, and given another parent. -/
  templateWritable : Bool
  /-- The class that the function constructs. -/
  ofClass : Option ClassRef
deriving DecidableEq, Repr, Inhabited

namespace Function

/-- A function without template. -/
def plain (name : String) (arity : UInt32) (body : FunctionBody) : Function where
  name := name
  arity := arity
  body := body
  constructHook := none
  template := none
  templateWritable := true
  ofClass := none

/-- A function of the host's. -/
def host (name : String) (arity : UInt32) (f : HostFunction) : Function :=
  plain name arity (.host f)

/-- A constructor of the host's, with its template. -/
def hostConstructor (name : String) (arity : UInt32) (call : HostFunction)
    (construct : Option HostFunction) (template : ObjectRef) (writable : Bool) : Function :=
  { host name arity call with
    constructHook := construct
    template := some template
    templateWritable := writable }

/-- A function made from a method of bytecode; it is named as the method is. -/
def bytecode (m : Method) (scope : Scope) (checksInit : Bool) (entry : HostFunction) : Function :=
  plain (m.name.getD "") m.parameterCount (.bytecode m scope checksInit entry)

/-- A stub for a native member that nobody implements. -/
def unresolved (traitName className : String) : Function :=
  plain traitName 0 (.unresolved traitName className)

/-- The function is such a stub. -/
def isUnresolved (f : Function) : Bool :=
  match f.body with
  | .unresolved .. => true
  | _ => false

end Function

end ClassLink
