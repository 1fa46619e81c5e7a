/-!
# Blanks

The characters that stand for white space anywhere in Unicode, and a text without the blanks
around it.
-/

namespace ClassLink.Text

/-- The code points of white space: tabulation to carriage return, space, next line, the
no-break space, the ogham space mark, the typographic spaces, the line and paragraph separators,
the two narrower spaces and the ideographic space. -/
def isBlank (c : Char) : Bool :=
  let n := c.toNat
  (9 ≤ n && n ≤ 13) || n == 0x20 || n == 0x85 || n == 0xa0 || n == 0x1680
    || (0x2000 ≤ n && n ≤ 0x200a) || n == 0x2028 || n == 0x2029 || n == 0x202f || n == 0x205f
    || n == 0x3000

/-- The characters between the blanks at both ends. -/
def trim (cs : List Char) : List Char :=
  ((cs.dropWhile isBlank).reverse.dropWhile isBlank).reverse

end ClassLink.Text
