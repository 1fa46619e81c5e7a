import ClassLink.Native.Builtins
/-!
# The registry of host classes

Host classes are found by identifier in two tables: the builtin one, which is installed once,
and the extensions, which embedders add. The builtin table is consulted first.
-/

namespace ClassLink

/-- The host classes known by identifier. -/
structure NativeRegistry where
  builtins : List (String × NativeDefinition)
  extensions : List (String × NativeDefinition)
  /-- The builtin table is installed. -/
  installed : Bool
deriving Repr, Inhabited

namespace NativeRegistry

/-- A registry without definitions. -/
def empty : NativeRegistry := ⟨[], [], false⟩

/-- Install the builtin table, once. -/
def install (r : NativeRegistry) : NativeRegistry :=
  if r.installed then r
  else { r with builtins := Builtins.all.map fun d => (d.id, d), installed := true }

/-- The definition under an identifier, builtin ones first. -/
def lookup (r : NativeRegistry) (id : String) : Option NativeDefinition :=
  (r.builtins.lookup id).or (r.extensions.lookup id)

/-- The identifier is in use. -/
def contains (r : NativeRegistry) (id : String) : Bool := (r.lookup id).isSome

/-- Add an embedder's definition under an identifier that is not in use. -/
def register (r : NativeRegistry) (d : NativeDefinition) : Except Fault NativeRegistry :=
  if r.contains d.id then .error (.duplicateNativeClass d.id)
  else .ok { r with extensions := (d.id, d) :: r.extensions }

/-- The identifiers of the builtin table. -/
def builtinIds (r : NativeRegistry) : List String := r.builtins.map (·.1)

/-- The number of definitions. -/
def size (r : NativeRegistry) : Nat := r.builtins.length + r.extensions.length

end NativeRegistry

end ClassLink
