/-!
# Sets of characters

A set of code points is given by its boundaries: a strictly increasing list of the code points
at which membership changes, the first of them the least member.
-/

namespace ClassLink.Text

/-- The boundaries of a set of code points. -/
structure CharSet where
  boundaries : Array Nat
deriving Repr

/-- A character is a member if it lies past an odd number of boundaries. -/
def CharSet.contains (s : CharSet) (c : Char) : Bool :=
  s.boundaries.foldl (fun inside b => if b ≤ c.toNat then !inside else inside) false

end ClassLink.Text
