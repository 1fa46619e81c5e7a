/-!
# Double-precision numbers, exactly

The model is the set of numbers itself. Every finite double is a whole multiple of the least
positive one, so a finite double is a sign and a natural number of *units*, a unit being
2⁻¹⁰⁷⁴; a zero keeps its sign. Not every count of units is a double: at most 53 binary digits
from the leading one on may be in use, and the count stays below 2²⁰⁹⁸ (`Fits`).

Operations compute on counts of units without error and round once, to the nearest double and
on a tie to the even one (`ofRatio`). There is one NaN: which of its bit patterns arose is no
part of a value.
-/

namespace ClassLink

/- Powers of natural numbers are those of core, also beside a library that gives them another
instance. -/
attribute [local instance (2000)] instPowNat

/-- A double has up to this many binary digits after its leading one. -/
def Double.fractionDigits : Nat := 52

/-- The place of the binary point: one is 2¹⁰⁷⁴ units. -/
def Double.scale : Nat := 1074

/-- The number one, in units. -/
def Double.one : Nat := 2 ^ Double.scale

/-- All finite doubles lie below this many units. -/
def Double.limit : Nat := 2 ^ (Double.scale + 1024)

/-- How many of the low binary digits of a count exceed the 53 in use. -/
def Double.spare (units : Nat) : Nat := units.log2 - Double.fractionDigits

/-- A count of units that is the magnitude of a double. -/
def Double.Fits (units : Nat) : Prop :=
  2 ^ Double.spare units ∣ units ∧ units < Double.limit

instance (units : Nat) : Decidable (Double.Fits units) :=
  inferInstanceAs (Decidable (_ ∧ _))

/-- A double-precision number; all NaNs are one. -/
inductive Double where
  | nan
  | infinity (negative : Bool)
  /-- A sign and a number of units; zero has both signs. -/
  | finite (negative : Bool) (units : Nat) (fits : Double.Fits units)
deriving DecidableEq, Repr

namespace Double

/-- At most 53 digits followed by zeros fit. -/
theorem fits_mul_two_pow {m k : Nat} (hm : m ≤ 2 ^ (fractionDigits + 1))
    (hlt : m * 2 ^ k < limit) : Fits (m * 2 ^ k) := by
  refine ⟨?_, hlt⟩
  by_cases h0 : m = 0
  · simp [h0]
  have hne : m * 2 ^ k ≠ 0 := Nat.mul_ne_zero h0 (Nat.pos_iff_ne_zero.mp (Nat.two_pow_pos k))
  have hlog : (m * 2 ^ k).log2 ≤ fractionDigits + 1 + k := by
    rcases Nat.lt_or_ge (fractionDigits + 1 + k) (m * 2 ^ k).log2 with h | h
    · exfalso
      have h1 : 2 ^ (m * 2 ^ k).log2 ≤ m * 2 ^ k := Nat.log2_self_le hne
      have h2 : 2 ^ (fractionDigits + 1 + k + 1) ≤ 2 ^ (m * 2 ^ k).log2 :=
        Nat.pow_le_pow_right (by omega) h
      have h3 : m * 2 ^ k ≤ 2 ^ (fractionDigits + 1) * 2 ^ k := Nat.mul_le_mul_right _ hm
      have h4 : 2 ^ (fractionDigits + 1 + k + 1) = 2 * (2 ^ (fractionDigits + 1) * 2 ^ k) := by
        rw [Nat.pow_succ, Nat.pow_add]; omega
      have h5 : 0 < 2 ^ (fractionDigits + 1) * 2 ^ k := Nat.mul_pos (by omega) (Nat.two_pow_pos k)
      omega
    · exact h
  rcases Nat.lt_or_ge m (2 ^ (fractionDigits + 1)) with hlt' | hge
  · have : (m * 2 ^ k).log2 < fractionDigits + 1 + k := by
      rw [Nat.log2_lt hne, Nat.pow_add]
      exact Nat.mul_lt_mul_of_pos_right hlt' (Nat.two_pow_pos k)
    refine Nat.dvd_trans (Nat.pow_dvd_pow 2 ?_) (Nat.dvd_mul_left (2 ^ k) m)
    unfold spare; omega
  · have hm' : m = 2 ^ (fractionDigits + 1) := Nat.le_antisymm hm hge
    subst hm'
    rw [← Nat.pow_add]
    refine Nat.pow_dvd_pow 2 ?_
    rw [← Nat.pow_add] at hlog
    unfold spare; omega

theorem fits_zero : Fits 0 := ⟨⟨0, rfl⟩, by decide +kernel⟩

instance : Inhabited Double := ⟨.finite false 0 fits_zero⟩

/-- The whole number nearest to `num / den`, the even one of two equally near. -/
def roundQuotient (num den : Nat) : Nat :=
  let q := num / den
  let twice := 2 * (num % den)
  if twice < den then q
  else if den < twice then q + 1
  else q + q % 2

/-- The count of units nearest to `num / den` among those with at most 53 digits in use. -/
def roundUnits (num den : Nat) : Nat :=
  let k := spare (num / den)
  roundQuotient num (den * 2 ^ k) * 2 ^ k

theorem roundQuotient_le (num den : Nat) : roundQuotient num den ≤ num / den + 1 := by
  unfold roundQuotient
  grind

theorem fits_roundUnits {num den : Nat} (h : roundUnits num den < limit) :
    Fits (roundUnits num den) := by
  refine fits_mul_two_pow (Nat.le_trans (roundQuotient_le _ _) ?_) h
  have hq : num / den < 2 ^ ((num / den).log2 + 1) := Nat.lt_log2_self
  have : num / (den * 2 ^ spare (num / den)) < 2 ^ (fractionDigits + 1) := by
    rw [← Nat.div_div_eq_div_mul, Nat.div_lt_iff_lt_mul (Nat.two_pow_pos _), ← Nat.pow_add]
    refine Nat.lt_of_lt_of_le hq (Nat.pow_le_pow_right (by omega) ?_)
    unfold spare; omega
  omega

/-- The double of the given sign nearest to `num / den` units; past the largest, an infinity. -/
def ofUnitRatio (negative : Bool) (num den : Nat) : Double :=
  if h : roundUnits num den < limit then .finite negative _ (fits_roundUnits h)
  else .infinity negative

/-- The double of the given sign nearest to a whole number of units. -/
def ofUnits (negative : Bool) (units : Nat) : Double := ofUnitRatio negative units 1

/-- The double of the given sign nearest to the quotient `num / den`. -/
def ofRatio (negative : Bool) (num den : Nat) : Double :=
  ofUnitRatio negative (num * one) den

/-- The double nearest to a natural number. -/
def ofNat (n : Nat) : Double := ofRatio false n 1

/-- The double nearest to an integer. -/
def ofInt (n : Int) : Double := ofRatio (n < 0) n.natAbs 1

/-- Positive zero. -/
def zero : Double := .finite false 0 fits_zero

/-- A magnitude with a sign, as an integer. -/
def signed (negative : Bool) (magnitude : Nat) : Int :=
  if negative then -magnitude else magnitude

/-- Where a number lies on the line, in units. The infinities lie at the limit that every finite
number stays below, both zeros at 0, and NaN nowhere. -/
def position : Double → Option Int
  | .nan => none
  | .infinity negative => some (signed negative limit)
  | .finite negative units _ => some (signed negative units)

/-- Numeric equality: the same position, so that the two zeros are equal and NaN equals
nothing. -/
def equal (a b : Double) : Bool :=
  match a.position, b.position with
  | some x, some y => x == y
  | _, _ => false

/-- Numeric order; NaN is below and above nothing. -/
def less (a b : Double) : Bool :=
  match a.position, b.position with
  | some x, some y => x < y
  | _, _ => false

/-- Numeric order, equal numbers included; NaN is at least nothing. -/
def atLeast (a b : Double) : Bool :=
  match a.position, b.position with
  | some x, some y => y ≤ x
  | _, _ => false

/-- The value that equals nothing. -/
def isNaN : Double → Bool
  | .nan => true
  | _ => false

/-- Neither NaN nor an infinity. -/
def isFinite : Double → Bool
  | .finite .. => true
  | _ => false

/-- The integer part of a finite number, its fraction cut off. -/
def truncated : Double → Option Int
  | .finite negative units _ => some (signed negative (units / one))
  | _ => none

/-- The integer a number is, if it is one. -/
def toInt? : Double → Option Int
  | .finite negative units _ =>
    if units % one = 0 then some (signed negative (units / one)) else none
  | _ => none

/-! ### Bit patterns -/

/-- The width of the exponent field, between the sign bit and the fraction. -/
def exponentBits : Nat := 11

/-- The exponent field of the infinities and of NaN: all its bits are set. -/
def exponentMax : Nat := 2 ^ exponentBits - 1

/-- Read the interchange format: a sign bit, the exponent field and the fraction. -/
def ofBits (bits : UInt64) : Double :=
  let n := bits.toNat
  let negative := n / 2 ^ (exponentBits + fractionDigits) == 1
  let exponent := n / 2 ^ fractionDigits % 2 ^ exponentBits
  let fraction := n % 2 ^ fractionDigits
  if exponent = exponentMax then
    if fraction = 0 then .infinity negative else .nan
  else if exponent = 0 then ofUnits negative fraction
  else ofUnits negative ((2 ^ fractionDigits + fraction) * 2 ^ (exponent - 1))

/-- Write the interchange format. With `k` spare digits a finite magnitude is `k` in the exponent
field plus its digits in use: the leading one carries into the field exactly when the number is
normal. -/
def toBits : Double → UInt64
  | .nan => 0x7ff8000000000000
  | .infinity negative => (signBit negative + exponentMax * 2 ^ fractionDigits).toUInt64
  | .finite negative units _ =>
    let k := spare units
    (signBit negative + k * 2 ^ fractionDigits + units / 2 ^ k).toUInt64
where
  /-- The weight of the sign bit of a negative number. -/
  signBit (negative : Bool) : Nat :=
    if negative then 2 ^ (exponentBits + fractionDigits) else 0

end Double

end ClassLink
