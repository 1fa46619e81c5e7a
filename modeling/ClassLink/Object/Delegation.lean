import ClassLink.Store
/-!
# Delegation

A property that an object does not own is looked up in the object it delegates to, and so on
along the chain. Deriving forms a second kind of chain, from a class to its base. Nothing keeps
an object from being given a parent that delegates to it, so a chain may run into itself; all
walks are bounded by the number of objects, or of classes, in the store.
-/

namespace ClassLink.Store

/-- The objects that an object delegates to, directly or through others, the nearest first. -/
def ancestors (s : Store) (o : ObjectRef) : List ObjectRef :=
  Chain.after s.parent s.objects.size o

/-- The object itself and then its ancestors. -/
def lineage (s : Store) (o : ObjectRef) : List ObjectRef := o :: s.ancestors o

/-- An object delegates to another one directly. -/
def delegatesTo (s : Store) (o p : ObjectRef) : Bool := s.parent o = some p

/-- An object delegates to another one, directly or through others. -/
def inheritsFrom (s : Store) (o a : ObjectRef) : Bool := a ∈ s.ancestors o

/-- The delegation chain of an object comes to an end. -/
def delegationEnds (s : Store) (o : ObjectRef) : Bool :=
  Chain.ends s.parent s.objects.size o

/-- The chain of the classes above a class comes to an end. -/
def basesEnd (s : Store) (c : ClassRef) : Bool := Chain.ends s.base s.classes.size c

/-- The property that a key means for an object: its own, or the nearest one on its chain. -/
def lookup (s : Store) (o : ObjectRef) (key : String) : Option Property :=
  (s.lineage o).findSome? fun x => (s.properties x).get? key

/-- What an object owns is what its keys mean. -/
theorem lookup_of_own {s : Store} {o : ObjectRef} {key : String} {p : Property}
    (h : (s.properties o).get? key = some p) : s.lookup o key = some p := by
  rw [lookup, lineage, List.findSome?_cons, h]

/-- The key means something for an object. -/
def hasProperty (s : Store) (o : ObjectRef) (key : String) : Bool := (s.lookup o key).isSome

/-- The class that owns the nearest owned object of the lineage. -/
def classOf? (s : Store) (o : ObjectRef) : Option ClassRef := (s.lineage o).findSome? s.owner

/-- The name of that class; an object without one is called by the root's name. -/
def classNameOf (s : Store) (o : ObjectRef) : String :=
  match s.classOf? o with
  | some c => s.className c
  | none => "Object"

end ClassLink.Store
