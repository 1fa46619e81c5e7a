import ClassLink.Object.Delegation
/-!
# Reading and writing properties

Reading an accessor runs its getter and writing one runs its setter, each with the object that
was asked as receiver, wherever on the chain the accessor was found. Writing to a key that means
no accessor stores the value in the object itself.

Both operations are given `invoke`, the way functions are called.
-/

namespace ClassLink

/-- A way to call a function on a receiver with arguments. -/
abbrev Invoke := FunctionRef → Value → List Value → Run Value

/-- Read a property; what is not there, or cannot be read, is undefined. -/
def readProperty (invoke : Invoke) (o : ObjectRef) (key : String) : Run Value := do
  match (← get).lookup o key with
  | some (.data v _) => return v
  | some (.accessor (some getter) _) => invoke getter (.object o) []
  | some (.accessor none _) => return .undefined
  | none => return .undefined

/-- Write a property; an accessor that cannot be written is left as it is. -/
def writeProperty (invoke : Invoke) (o : ObjectRef) (key : String) (v : Value) : Run Unit := do
  match (← get).lookup o key with
  | some (.accessor _ (some setter)) => discard <| invoke setter (.object o) [v]
  | some (.accessor _ none) => return ()
  | _ => modify (·.modifyProperties o (·.store key v))

end ClassLink
