import ClassLink.Number.Double
/-!
# Arithmetic on doubles

The operations of the host's mathematics on `Double`. All but the power are exact on counts of
units and round once at the end.
-/

namespace ClassLink.Double

/- Powers of natural numbers are those of core, also beside a library that gives them another
instance. -/
attribute [local instance (2000)] instPowNat

/-- The magnitude: the sign is dropped. -/
def abs : Double → Double
  | .nan => .nan
  | .infinity _ => .infinity false
  | .finite _ units fits => .finite false units fits

/-- The number with the other sign. -/
def neg : Double → Double
  | .nan => .nan
  | .infinity negative => .infinity (!negative)
  | .finite negative units fits => .finite (!negative) units fits

/-- The integer part; the sign stays, also where nothing else is left. -/
def trunc : Double → Double
  | .finite negative units _ => ofUnits negative (units / one * one)
  | x => x

/-- The greatest whole number that is not above; a negative zero stays one. -/
def floor : Double → Double
  | .finite negative units fits =>
    if units % one = 0 then .finite negative units fits
    else if negative then ofUnits true ((units / one + 1) * one)
    else ofUnits false (units / one * one)
  | x => x

/-- The least whole number that is not below; what lies between -1 and 0 gives negative zero. -/
def ceil : Double → Double
  | .finite negative units fits =>
    if units % one = 0 then .finite negative units fits
    else if negative then ofUnits true (units / one * one)
    else ofUnits false ((units / one + 1) * one)
  | x => x

/-- The sum, rounded once. A sum of zero is negative only if both operands are. -/
def add : Double → Double → Double
  | .finite s u _, .finite t v _ =>
    let sum := signed s u + signed t v
    if sum = 0 then ofUnits (s && t) 0 else ofUnits (sum < 0) sum.natAbs
  | .infinity s, .infinity t => if s = t then .infinity s else .nan
  | .infinity s, .finite .. => .infinity s
  | .finite .., .infinity t => .infinity t
  | .nan, _ => .nan
  | _, .nan => .nan

/-- The difference, rounded once. -/
def sub (a b : Double) : Double := a.add b.neg

/-- What is left of a number after taking away another one as often as it fits in; the sign is that
of the first. -/
def rem : Double → Double → Double
  | .finite s u _, .finite _ v _ => if v = 0 then .nan else ofUnits s (u % v)
  | .finite s u fits, .infinity _ => .finite s u fits
  | _, _ => .nan

/-- The remainder that is not negative: to a negative one the magnitude of the divisor is added,
with its rounding. -/
def remEuclid (a b : Double) : Double :=
  let r := a.rem b
  if r.less .zero then r.add b.abs else r

/-- The integer part held between two bounds; NaN gives 0. -/
def held (low high : Int) : Double → Int
  | .nan => 0
  | .infinity negative => if negative then low else high
  | .finite negative units _ =>
    let n := signed negative (units / one)
    if n < low then low else if high < n then high else n

/-- One half. -/
def half : Double := ofRatio false 1 2

/-- The nearest whole number, upwards from a half: half is added, with its rounding, and the
floor taken. -/
def round (x : Double) : Double := (x.add half).floor

/-- The largest natural number with `bits` binary digits whose square is at most `n`, found
digit by digit from the top. -/
def rootBelow (n : Nat) : Nat → Nat → Nat
  | 0, found => found
  | bits + 1, found =>
    let next := found + 2 ^ bits
    rootBelow n bits (if next * next ≤ n then next else found)

/-- The whole part of a square root. -/
def wholeRoot (n : Nat) : Nat := rootBelow n (n.log2 / 2 + 1) 0

/-- The square root, rounded once. The root of the magnitude in units has hundreds of digits
to spare, so that whether a remainder is left decides every tie. -/
def sqrt : Double → Double
  | .nan => .nan
  | .infinity negative => if negative then .nan else .infinity false
  | .finite negative units fits =>
    if units = 0 then .finite negative units fits
    else if negative then .nan
    else
      let root := wholeRoot (units * one)
      let rest := if root * root = units * one then 0 else 1
      ofUnitRatio false (2 * root + rest) 2

/-- The larger operand; the second of two equal ones, which may differ from the first in the
sign of a zero, and NaN if either is. -/
def max (a b : Double) : Double :=
  if a.isNaN || b.isNaN then .nan else if b.less a then a else b

/-- The smaller operand; the second of two equal ones, and NaN if either is. -/
def min (a b : Double) : Double :=
  if a.isNaN || b.isNaN then .nan else if a.less b then a else b

/-- The power, as the platform's mathematics library computes it. -/
def pow (a b : Double) : Double :=
  ofBits ((Float.ofBits a.toBits).pow (Float.ofBits b.toBits)).toBits

end ClassLink.Double
