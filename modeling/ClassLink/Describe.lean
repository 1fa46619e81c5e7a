import ClassLink.Number.Numeral
import ClassLink.Number.Shortest
import ClassLink.Store
import ClassLink.Text.Quoted
/-!
# Values as those who search for a fault see them

The description of a value tells apart what its text does not: the kinds of numbers, texts from
other values, and objects and functions from each other.
-/

namespace ClassLink

/-- The description of a value, with the given names for objects and functions. -/
def Store.describe (s : Store) (objectId : ObjectRef → String) (functionId : FunctionRef → String) :
    Value → String
  | .undefined => "undefined"
  | .null => "null"
  | .boolean b => if b then "true" else "false"
  | .int i => Numeral.decimal i.toInt ++ "i"
  | .uint u => Numeral.decimal u.toNat ++ "u"
  | .number d => d.positional
  | .string s => Text.quoted s
  | .object o => "Object [#" ++ objectId o ++ "]"
  | .function f => "Function " ++ (s.function f).name ++ " [#" ++ functionId f ++ "]"

end ClassLink
