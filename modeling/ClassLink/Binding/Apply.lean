import ClassLink.Store
/-!
# Installing members on objects

The members of a chain of tables are installed on an object one after the other, in the order of
the flattened chain. Two modes differ in what they do with keys that the object owns beforehand:
replacing writes over them, appending leaves them alone. What it owns is read off its list of keys,
before the first member is installed.
-/

namespace ClassLink

/-- What happens to keys that the object owns beforehand. -/
inductive ApplyMode where
  | replace
  | append
deriving DecidableEq, Repr, Inhabited

/-- Install one member. -/
def PropertyTable.install (t : PropertyTable) (e : BindingEntry) : PropertyTable :=
  match e.binding with
  | .method f => t.defineMethod e.key f
  | .getter f => t.defineGetter e.key f
  | .setter f => t.defineSetter e.key f
  | .slot _ initial _ => t.defineValue e.key initial

namespace Bindings

/-- The members that are installed on an object with the given properties. -/
def pending (b : Bindings) (mode : ApplyMode) (t : PropertyTable) : List BindingEntry :=
  match mode with
  | .replace => b.flattened
  | .append => b.flattened.filter (·.key ∉ t.keys)

/-- The properties of an object once the members are installed. -/
def applied (b : Bindings) (mode : ApplyMode) (t : PropertyTable) : PropertyTable :=
  (b.pending mode t).foldl PropertyTable.install t

/-- Install the members on an object, and count them. -/
def applyTo (b : Bindings) (d : DomainRef) (target : ObjectRef) (mode : ApplyMode) :
    Action Unit :=
  modify fun s =>
    let count := (b.pending mode (s.properties target)).length
    (s.modifyProperties target (b.applied mode)).modifyDomain d (·.countTable count)

/-- The entries of this class that are bound to stubs. -/
def unresolved (b : Bindings) (s : Store) : List BindingEntry :=
  b.entries.filter fun e => e.binding.function?.any fun f => (s.function f).isUnresolved

end Bindings

end ClassLink
