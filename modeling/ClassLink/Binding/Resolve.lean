import ClassLink.Store
/-!
# Resolving native members

The host's implementation of a native member is looked up in a list of holder objects, by the
member's local name and kind: a method is a property that holds a function, and a getter or
setter is that half of an accessor. The first holder that owns one supplies it.
-/

namespace ClassLink

/-- The name a holder uses for a member; the name that holders may not use has a substitute. -/
def nativeName (name : String) : String := if name = "prototype" then "asPrototype" else name

namespace Trait

/-- The implementation of a member among the properties of a holder. -/
def implementation? (t : Trait) (holder : PropertyTable) : Option FunctionRef :=
  holder.function? t.kind (nativeName t.name.name)

/-- A holder implements the member. -/
def isImplementedBy (t : Trait) (s : Store) (holder : ObjectRef) : Bool :=
  (s.properties holder).hasFunction t.kind (nativeName t.name.name)

/-- Some holder implements the member. -/
def isImplemented (t : Trait) (s : Store) (holders : List ObjectRef) : Bool :=
  holders.any (t.isImplementedBy s)

/-- The first implementation of the member among the holders. -/
def resolve? (t : Trait) (s : Store) (holders : List ObjectRef) : Option FunctionRef :=
  holders.findSome? fun h => t.implementation? (s.properties h)

end Trait

/-- The first implementation of a member among the holders; the log is told if there is none. -/
def resolveBinding (t : Trait) (holders : List ObjectRef) : Action (Option FunctionRef) := do
  match t.resolve? (← get) holders with
  | some f => return some f
  | none =>
    log (.debug LogRecord.nativesTarget
      ("cannot find " ++ t.display ++ " in " ++ Numeral.decimal holders.length ++ " holder(s)"))
    return none

end ClassLink
