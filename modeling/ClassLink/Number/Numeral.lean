import ClassLink.Number.Double
/-!
# Numerals: digits and the numbers they stand for

Writing: a natural number in a base from 2 to 36, an integer with its sign. Reading: a run of
digits in a base, and the decimal numeral with optional sign, point and exponent whose exact
value is rounded once.
-/

namespace ClassLink.Numeral

/- Powers of natural numbers are those of core, also beside a library that gives them another
instance. -/
attribute [local instance (2000)] instPowNat

/-- The character of a digit below 36: the ten figures, then small letters. -/
def digitChar (d : Nat) : Char :=
  if d < 10 then Char.ofNat (48 + d) else Char.ofNat (87 + d)

/-- The digits of a natural number in a base, the highest first; zero has one digit. -/
def digits (base n : Nat) : List Nat :=
  if n < base ∨ base < 2 then [n] else digits base (n / base) ++ [n % base]
termination_by n
decreasing_by exact Nat.div_lt_self (by omega) (by omega)

/-- The numeral of a natural number in a base. -/
def ofNat (base n : Nat) : List Char := (digits base n).map digitChar

/-- The numeral of an integer in a base: a minus sign goes before a negative one. -/
def ofInt (base : Nat) (n : Int) : List Char :=
  if n < 0 then '-' :: ofNat base n.natAbs else ofNat base n.natAbs

/-- The decimal text of an integer. -/
def decimal (n : Int) : String := String.ofList (ofInt 10 n)

/-- What a character stands for as a digit, letters of either case counting from ten. -/
def digitValue? (c : Char) : Option Nat :=
  if '0' ≤ c ∧ c ≤ '9' then some (c.toNat - 48)
  else if 'a' ≤ c ∧ c ≤ 'z' then some (c.toNat - 87)
  else if 'A' ≤ c ∧ c ≤ 'Z' then some (c.toNat - 55)
  else none

/-- One digit further along a numeral that stood for `n` so far. -/
def shift? (base n : Nat) (c : Char) : Option Nat :=
  match digitValue? c with
  | some d => if d < base then some (n * base + d) else none
  | none => none

/-- The number a run of digits stands for; `none` if a character is no digit of the base. -/
def toNat? (base : Nat) (cs : List Char) : Option Nat :=
  cs.foldlM (shift? base) 0

/-! ### Bit patterns -/

/-- The sixteen hexadecimal digits of a bit pattern. -/
def ofBits (bits : UInt64) : String :=
  let figures := ofNat 16 bits.toNat
  String.ofList (List.replicate (16 - figures.length) '0' ++ figures)

/-- The bit pattern that hexadecimal digits stand for. -/
def toBits? (s : String) : Option UInt64 := (toNat? 16 s.toList).map Nat.toUInt64

/-! ### Decimal numerals -/

/-- A decimal figure. -/
def isFigure (c : Char) : Bool := '0' ≤ c ∧ c ≤ '9'

/-- An optional sign, and whether it is a minus. -/
def sign : List Char → Bool × List Char
  | '-' :: r => (true, r)
  | '+' :: r => (false, r)
  | cs => (false, cs)

/-- The number that a run of figures stands for. -/
def ofFigures (cs : List Char) : Nat := cs.foldl (fun n c => n * 10 + (c.toNat - 48)) 0

/-- The part after the digits: nothing, or an `e` of either case and a signed run of figures. -/
def exponent? : List Char → Option Int
  | [] => some 0
  | c :: r =>
    let (negative, figures) := sign r
    if (c = 'e' ∨ c = 'E') ∧ figures ≠ [] ∧ figures.all isFigure then
      some (Double.signed negative (ofFigures figures))
    else none

/-- The double nearest to `n * 10 ^ exponent`. Counts of digits beyond those of any double are
decided without forming the power. -/
def scaled (negative : Bool) (n : Nat) (exponent : Int) : Double :=
  let top := exponent + ((digits 10 n).length : Int)
  if n = 0 ∨ top < -400 then Double.ofUnits negative 0
  else if 400 < top then .infinity negative
  else if exponent < 0 then Double.ofRatio negative n (10 ^ exponent.natAbs)
  else Double.ofRatio negative (n * 10 ^ exponent.natAbs) 1

/-- Read a decimal numeral: a sign, figures with at most one point among or around them, an
exponent. At least one figure must stand before the exponent. -/
def toDouble? (cs : List Char) : Option Double :=
  let (negative, body) := sign cs
  let whole := body.takeWhile isFigure
  let afterWhole := body.dropWhile isFigure
  let (fraction, rest) :=
    match afterWhole with
    | '.' :: r => (r.takeWhile isFigure, r.dropWhile isFigure)
    | r => ([], r)
  if whole = [] ∧ fraction = [] then none
  else
    (exponent? rest).map fun e =>
      scaled negative (ofFigures (whole ++ fraction)) (e - (fraction.length : Int))

end ClassLink.Numeral
