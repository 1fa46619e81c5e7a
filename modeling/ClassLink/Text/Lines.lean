/-!
# The lines of a text

A line ends with a line feed, or with a carriage return and a line feed; what follows the last
end is a line if it is not empty. A carriage return elsewhere is an ordinary character.
-/

namespace ClassLink.Text

/-- The lines of a text, without their ends. -/
def lines : List Char → List (List Char)
  | [] => []
  | '\n' :: r => [] :: lines r
  | '\r' :: '\n' :: r => [] :: lines r
  | c :: r =>
    match lines r with
    | [] => [[c]]
    | l :: ls => (c :: l) :: ls

end ClassLink.Text
