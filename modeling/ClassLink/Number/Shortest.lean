import ClassLink.Number.Numeral
/-!
# The shortest decimal that reads back

Every real number nearer to a double than to its two neighbours reads back as that double, and
so do the two bounds when the digits in use are even. Among the decimals in this interval the
ones with the fewest digits are the shortest texts; of those the one nearest to the double is
taken, the upper of two equally near.

All quantities are natural numbers: an endpoint is counted in half units.
-/

namespace ClassLink.Double

/- Powers of natural numbers are those of core, also beside a library that gives them another
instance. -/
attribute [local instance (2000)] instPowNat

/-- The real numbers that round to a magnitude, in half units. -/
structure Interval where
  low : Nat
  high : Nat
  /-- The bounds round to it as well. -/
  closed : Bool
deriving Repr

/-- The interval of a positive magnitude. Below a power of two the neighbours lie half as far
apart as above it. -/
def interval (units : Nat) : Interval where
  low := 2 * units - (if units = 2 ^ units.log2 ∧ 0 < spare units then gap / 2 else gap)
  high := 2 * units + gap
  closed := units / gap % 2 == 0
where
  /-- From a magnitude to the next one above it. -/
  gap : Nat := 2 ^ spare units

/-- A decimal, `digits * 10 ^ exponent`. -/
structure Decimal where
  digits : Nat
  exponent : Int
deriving DecidableEq, Repr

namespace Decimal

/-- The numerator of a decimal in half units over the denominator `den`. -/
def numerator (d : Decimal) : Nat :=
  if d.exponent < 0 then d.digits * (2 * one) else d.digits * 10 ^ d.exponent.natAbs * (2 * one)

/-- The denominator of a decimal in half units. -/
def denominator (d : Decimal) : Nat :=
  if d.exponent < 0 then 10 ^ d.exponent.natAbs else 1

/-- The decimal lies in an interval. -/
def within (d : Decimal) (i : Interval) : Bool :=
  let low := i.low * d.denominator
  let high := i.high * d.denominator
  if i.closed then low ≤ d.numerator && d.numerator ≤ high
  else low < d.numerator && d.numerator < high

/-- How far the decimal is from a magnitude, over the decimal's denominator. -/
def distance (d : Decimal) (units : Nat) : Nat :=
  let x := 2 * units * d.denominator
  (d.numerator - x) + (x - d.numerator)

end Decimal

/-- The greatest multiple of `10 ^ exponent` that is not above a magnitude. -/
def below (units : Nat) (exponent : Int) : Decimal where
  digits :=
    if exponent < 0 then units * 10 ^ exponent.natAbs / one
    else units / (one * 10 ^ exponent.natAbs)
  exponent := exponent

/-- The shortest choice on one grid of decimals: of the two neighbours of the magnitude the
nearer one that reads back. -/
def onGrid? (units : Nat) (exponent : Int) : Option Decimal :=
  let i := interval units
  let lower := below units exponent
  let upper : Decimal := ⟨lower.digits + 1, exponent⟩
  match lower.digits ≠ 0 && lower.within i, upper.within i with
  | true, true => if lower.distance units < upper.distance units then some lower else some upper
  | true, false => some lower
  | false, true => some upper
  | false, false => none

/-- The exponent of ten of the leading digit of a positive magnitude. -/
def leadingExponent (units : Nat) : Int :=
  let whole := units / one
  if whole ≠ 0 then ((Numeral.digits 10 whole).length : Int) - 1
  else ((Numeral.digits 10 (units * 10 ^ (330 : Nat) / one)).length : Int) - 331

/-- Ten of a place are one of the next place. -/
def Decimal.carry (d : Decimal) : Decimal :=
  if d.digits = 10 then ⟨1, d.exponent + 1⟩ else d

/-- The shortest decimal of a positive magnitude: grids of 1 to 17 digits are tried, the
coarsest first. Seventeen digits tell all doubles apart. Only on the coarsest grid can the
upper neighbour have a digit more than the grid, and then it is ten. -/
def shortest (units : Nat) : Decimal :=
  let top := leadingExponent units
  ((List.range 17).findSome? fun (n : Nat) => onGrid? units (top - (n : Int))).getD
    (below units (top - 16)) |>.carry

/-- A decimal without exponent: zeros fill the places up to the point. -/
def Decimal.positional (d : Decimal) : List Char :=
  let figures := Numeral.ofNat 10 d.digits
  if 0 ≤ d.exponent then figures ++ List.replicate d.exponent.natAbs '0'
  else
    let places := d.exponent.natAbs
    let padded := List.replicate (places + 1 - figures.length) '0' ++ figures
    padded.take (padded.length - places) ++ '.' :: padded.drop (padded.length - places)

/-- The shortest text of a number that reads back, never with an exponent; a negative zero
keeps its sign. -/
def positional : Double → String
  | .nan => "NaN"
  | .infinity negative => if negative then "-inf" else "inf"
  | .finite negative units _ =>
    let text := if units = 0 then ['0'] else (shortest units).positional
    String.ofList (if negative then '-' :: text else text)

end ClassLink.Double
