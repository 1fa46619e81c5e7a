/-!
# Searching and indexing a text by characters
-/

namespace ClassLink.Text

/-- The least index at which `needle` occurs in a text. -/
def indexOf? (needle : List Char) : List Char → Option Nat
  | [] => if needle.isEmpty then some 0 else none
  | c :: r =>
    if needle.isPrefixOf (c :: r) then some 0 else (indexOf? needle r).map (· + 1)

end ClassLink.Text
