import ClassLink.Number.Arithmetic
import ClassLink.Number.Shortest
/-!
# The written forms of numbers

Three forms: the one scripts see (`display`), a fixed number of decimal places (`fixed`), and
whole numbers in a base from 2 to 36 (`inRadix`).
-/

namespace ClassLink.Double

/- Powers of natural numbers are those of core, also beside a library that gives them another
instance. -/
attribute [local instance (2000)] instPowNat

/-- The largest whole number the plain form writes out; larger ones are written as this one. -/
def wholeMax : Int := 9223372036854775807

/-- The least whole number the plain form writes out. -/
def wholeMin : Int := -9223372036854775808

/-- From here on whole numbers are written by their shortest digits. -/
def wholeLimit : Nat := 10 ^ (21 : Nat)

/-- The form scripts see. A whole number of magnitude below 10²¹ is written as an integer, held
between `wholeMin` and `wholeMax` and without the sign of a zero; any other number by its
shortest digits. -/
def display (x : Double) : String :=
  match x with
  | .nan => "NaN"
  | .infinity negative => if negative then "-Infinity" else "Infinity"
  | .finite .. =>
    match x.toInt? with
    | some n =>
      if n.natAbs < wholeLimit then
        Numeral.decimal (if n < wholeMin then wholeMin else if wholeMax < n then wholeMax else n)
      else x.positional
    | none => x.positional

/-- Exactly `places` decimal places; an exact half goes to the even neighbour. The sign of a
negative number stays, also where only zeros are left of it. -/
def fixed (places : Nat) : Double → String
  | .nan => "NaN"
  | .infinity negative => if negative then "-inf" else "inf"
  | .finite negative units _ =>
    let text :=
      (Decimal.mk (roundQuotient (units * 10 ^ places) one) (-(places : Int))).positional
    String.ofList (if negative then '-' :: text else text)

/-- Why a number has no form in a base. -/
inductive RadixError where
  /-- The base is not from 2 to 36. -/
  | badRadix
  /-- The number is not whole. -/
  | fractional
  /-- The number has more than 128 binary digits. -/
  | tooLarge
deriving DecidableEq, Repr

/-- The largest magnitude that is written in a base other than ten. -/
def magnitudeMax : Nat := 2 ^ (128 : Nat) - 1

/-- A number in a base. Base ten is the form scripts see; every other base from 2 to 36 takes
whole numbers whose magnitude is below the double nearest to `magnitudeMax`. -/
def inRadix (x : Double) (radix : Int) : Except RadixError String :=
  if radix = 10 then .ok x.display
  else if radix < 2 ∨ 36 < radix then .error .badRadix
  else if !x.isFinite || !x.equal x.trunc then .error .fractional
  else if x.abs.atLeast (.ofNat magnitudeMax) then .error .tooLarge
  else
    let figures := Numeral.ofNat radix.toNat (x.abs.held 0 magnitudeMax).toNat
    .ok (String.ofList (if x.less .zero then '-' :: figures else figures))

end ClassLink.Double
