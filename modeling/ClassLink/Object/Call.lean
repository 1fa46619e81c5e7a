import ClassLink.Native.Behavior
/-!
# Calling and constructing

A call runs the body of a function. Only accessors make one call run another, always on the same
receiver and by a key that the calling function fixes, so a function that comes up again inside
its own call would come up for ever. A chain of calls is therefore bounded by the number of
functions; a longer one is endless and fails.

Constructing allocates an object and runs code on it. What that code does is up to the embedder who
supplies it, so constructing is given `invoke`, the way functions are called; `call` is the way for
the functions of a store.
-/

namespace ClassLink

/-- Call a function; at most `depth` calls may be nested. -/
def callWithin : Nat → Invoke
  | 0, f, _, _ => do throw (.endlessCall ((← get).function f).name)
  | depth + 1, f, this, args => do
    match ((← get).function f).body with
    | .host g => g.run (callWithin depth) this args
    | .bytecode _ _ _ entry => entry.run (callWithin depth) this args
    | .unresolved traitName className => throw (.unresolvedNative traitName className)

/-- Call a function on a receiver with arguments. -/
def call (f : FunctionRef) (this : Value) (args : List Value) : Run Value := do
  callWithin ((← get).functions.size + 1) f this args

/-- Read a property. -/
def getProperty (o : ObjectRef) (key : String) : Run Value := readProperty call o key

/-- Write a property. -/
def setProperty (o : ObjectRef) (key : String) (v : Value) : Run Unit :=
  writeProperty call o key v

/-- Construct an instance: a new object that delegates to the function's template, on which the
construct hook or else the body runs. The hook's result is the instance; the body's only if it
is an object or a function, and otherwise the new object is. -/
def instantiateBy (invoke : Invoke) (f : FunctionRef) (args : List Value) : Run Value := do
  let g := (← get).function f
  match g.template with
  | none => throw (.notConstructible g.name)
  | some template =>
    let o ← newObject (some template)
    match g.constructHook with
    | some hook => hook.run invoke (.object o) args
    | none =>
      match ← invoke f (.object o) args with
      | .object x => return .object x
      | .function x => return .function x
      | _ => return .object o

/-- Construct an instance with the functions of the store. -/
def constructWith (f : FunctionRef) (args : List Value) : Run Value := instantiateBy call f args

end ClassLink
