import ClassLink.Coercion
import ClassLink.Proofs.Rounding
import ClassLink.Proofs.WholeArithmetic
import Mathlib.Data.Rat.Floor

/-!
# Wrapping to 32 bits

A double is turned into a 32-bit integer in floating point: its fraction is cut off, the remainder
modulo 2³² is taken, the upper half of the remainders is moved below zero, and what is left is cast.
Each of these steps is exact, so that together they are reduction modulo 2³² of the integer part
(`Double.toInt32_eq`, `Double.toUInt32_eq`), for magnitudes of up to 2¹⁰²⁴ as well. Integers of the
one kind are turned into the other by their bit patterns, which is the same reduction. So the two
readings of a value agree modulo 2³², and depend on nothing but the integer part of what the value
denotes (`wraps_wholePart`).
-/

namespace ClassLink

/- Powers of natural numbers are those of core, as in the definitions. -/
attribute [local instance (2000)] instPowNat

/- Both are powers of two too large to be written out. -/
attribute [local irreducible] Double.one Double.limit

/-! ### Integers of 32 bits -/

theorem toNat_ofInt (z : ℤ) : ((UInt32.ofInt z).toNat : ℤ) = z % 4294967296 := by
  rw [UInt32.ofInt, UInt32.toNat_ofNat']
  omega

/-- The upper half of the remainders modulo 2³² stands for the negative numbers. -/
theorem toInt_ofInt (z : ℤ) : (Int32.ofInt z).toInt =
    if z % 4294967296 < 2147483648 then z % 4294967296 else z % 4294967296 - 4294967296 :=
  (Int32.toInt_ofInt ..).trans (Int.bmod_def ..)

/-! ### The integer part -/

/-- The integer part of a number: its fraction is cut off. -/
def wholePart (q : ℚ) : ℤ := if 0 ≤ q then ⌊q⌋ else ⌈q⌉

namespace Double

variable {d : Double}

theorem truncated_of_rational? {q : ℚ} (h : d.rational? = some q) :
    d.truncated = some (wholePart q) := by
  cases d with
  | nan | infinity => cases h
  | finite negative units fits =>
    obtain rfl := Option.some.inj h
    have pos := one_cast_pos
    have positive : ⌊(units : ℚ) / (one : ℕ)⌋ = ((units / one : ℕ) : ℤ) :=
      Rat.floor_natCast_div_natCast units one
    refine congrArg some ?_
    cases negative with
    | false =>
      have sign : 0 ≤ ((signed false units : ℤ) : ℚ) / (one : ℕ) :=
        div_nonneg (Nat.cast_nonneg units) pos.le
      rw [wholePart, if_pos sign]
      exact positive.symm
    | true =>
      have opposite : ((signed true units : ℤ) : ℚ) / (one : ℕ) = -((units : ℚ) / (one : ℕ)) := by
        rw [signed_true]
        push_cast
        exact neg_div _ _
      rw [opposite, wholePart]
      split_ifs with sign
      · have zero : (units : ℚ) / (one : ℕ) = 0 :=
          le_antisymm (neg_nonneg.mp sign) (div_nonneg (Nat.cast_nonneg units) pos.le)
        have none : units / one = 0 := by
          rw [zero, Int.floor_zero] at positive
          exact_mod_cast positive.symm
        rw [zero, none]
        simp [signed]
      · rw [Int.ceil_neg, positive]
        rfl

theorem truncated_of_isFinite_eq_false (h : d.isFinite = false) : d.truncated = none := by
  cases d with
  | nan | infinity => rfl
  | finite negative units fits => cases h

/-! ### The steps of the conversion -/

/-- The remainder modulo 2³² of the integer part, still as a double. -/
theorem toInt?_remainder {z : ℤ} (h : d.truncated = some z) :
    (d.trunc.remEuclid (.ofNat 4294967296)).toInt? = some (z % 4294967296) :=
  toInt?_remEuclid (toInt?_trunc h) (toInt?_ofNat_of_le (by decide)) (by decide) (by decide)

/-- The unsigned integer of a double is the integer part modulo 2³². -/
theorem toUInt32_eq (d : Double) : d.toUInt32 = .ofInt (d.truncated.getD 0) := by
  unfold toUInt32
  cases finite : d.isFinite with
  | false => rw [truncated_of_isFinite_eq_false finite]; rfl
  | true =>
    obtain ⟨z, part⟩ := isFinite_iff_truncated.mp finite
    rw [part, Option.getD_some]
    have kept : (d.trunc.remEuclid (.ofNat 4294967296)).held 0 4294967295 = z % 4294967296 :=
      held_of_toInt? (toInt?_remainder part) (by omega) (by omega)
    rw [Bool.not_true, if_neg Bool.false_ne_true, kept]
    refine UInt32.toNat_inj.mp (Int.ofNat_inj.mp ?_)
    rw [toNat_ofInt, toNat_ofInt]
    omega

/-- The signed integer of a double is the integer part modulo 2³². -/
theorem toInt32_eq (d : Double) : d.toInt32 = .ofInt (d.truncated.getD 0) := by
  unfold toInt32
  cases finite : d.isFinite with
  | false => rw [truncated_of_isFinite_eq_false finite]; rfl
  | true =>
    obtain ⟨z, part⟩ := isFinite_iff_truncated.mp finite
    rw [part, Option.getD_some]
    have rest := toInt?_remainder part
    have half : (ofNat 2147483648).toInt? = some 2147483648 := toInt?_ofNat_of_le (by decide)
    have whole : (ofNat 4294967296).toInt? = some 4294967296 := toInt?_ofNat_of_le (by decide)
    have low : 0 ≤ z % 4294967296 := by omega
    have high : z % 4294967296 < 4294967296 := by omega
    rw [Bool.not_true, if_neg Bool.false_ne_true]
    dsimp only
    refine Int32.toInt_inj.mp ?_
    by_cases upper : 2147483648 ≤ z % 4294967296
    · have moved : ((d.trunc.remEuclid (.ofNat 4294967296)).sub (.ofNat 4294967296)).toInt? =
          some (z % 4294967296 + -4294967296) :=
        toInt?_add rest (toInt?_neg whole) (by omega)
      rw [if_pos ((atLeast_iff rest half).mpr upper),
        held_of_toInt? moved (by omega) (by omega), toInt_ofInt, toInt_ofInt]
      split_ifs <;> omega
    · rw [if_neg (fun h => upper ((atLeast_iff rest half).mp h)),
        held_of_toInt? rest (by omega) (by omega), toInt_ofInt, toInt_ofInt]
      split_ifs <;> omega

end Double

/-! ### All values -/

namespace Value

/-- The integer part of what a value denotes; 0 if it denotes no finite number. -/
def wholePart : Value → ℤ
  | .int i => i.toInt
  | .uint u => u.toNat
  | v => v.toNumber.truncated.getD 0

/-- The number that a value of one of the three kinds denotes. -/
def rational? : Value → Option ℚ
  | .int i => some i.toInt
  | .uint u => some u.toNat
  | .number d => d.rational?
  | _ => none

theorem wholePart_of_rational? {v : Value} {n : ℤ} (h : v.rational? = some (n : ℚ)) :
    v.wholePart = n := by
  cases v with
  | int i => exact_mod_cast Option.some.inj h
  | uint u => exact_mod_cast Option.some.inj h
  | number d =>
    have whole := Double.rational?_eq_intCast_iff.mp h
    exact congrArg (Option.getD · 0) (Double.truncated_of_toInt? whole)
  | _ => cases h

theorem toInt32_eq (v : Value) : v.toInt32 = .ofInt v.wholePart := by
  cases v with
  | int i => exact (Int32.ofInt_toInt i).symm
  | uint u =>
    refine Int32.toInt_inj.mp ?_
    change u.toBitVec.toInt = _
    rw [toInt_ofInt, BitVec.toInt_eq_toNat_bmod]
    exact Int.bmod_def ..
  | _ => exact Double.toInt32_eq _

theorem toUInt32_eq (v : Value) : v.toUInt32 = .ofInt v.wholePart := by
  cases v with
  | int i =>
    refine UInt32.toNat_inj.mp (Int.ofNat_inj.mp ?_)
    change (i.toBitVec.toNat : ℤ) = _
    rw [toNat_ofInt]
    change _ = i.toBitVec.toInt % _
    rw [BitVec.toInt_eq_toNat_bmod]
    have bound := i.toBitVec.isLt
    rw [Int.bmod_def]
    split_ifs <;> omega
  | uint u =>
    refine UInt32.toNat_inj.mp (Int.ofNat_inj.mp ?_)
    have bound := u.toNat_lt
    rw [toNat_ofInt]
    change (u.toNat : ℤ) = u.toNat % _
    omega
  | _ => exact Double.toUInt32_eq _

end Value

/-- **The integers of a value are its integer part modulo 2³².** A finite double gives the integer
part of the number that it is, from 0 on or from -2³¹ on; NaN and the infinities give 0. The two
integers of any value agree modulo 2³², and values that denote the same integer, of whichever kinds
of numbers they are, give the same ones. -/
theorem wraps_wholePart (d : Double) :
    (∀ q, d.rational? = some q →
      (d.toUInt32.toNat : ℤ) = wholePart q % 4294967296 ∧
      d.toInt32.toInt % 4294967296 = wholePart q % 4294967296 ∧
      -2147483648 ≤ d.toInt32.toInt ∧ d.toInt32.toInt < 2147483648) ∧
    (d.isFinite = false → d.toUInt32 = 0 ∧ d.toInt32 = 0) ∧
    (∀ v : Value, (v.toUInt32.toNat : ℤ) = v.toInt32.toInt % 4294967296) ∧
    ∀ (v w : Value) (n : ℤ), v.rational? = some (n : ℚ) → w.rational? = some (n : ℚ) →
      v.toInt32 = w.toInt32 ∧ v.toUInt32 = w.toUInt32 := by
  refine ⟨fun q value => ?_, fun infinite => ?_, fun v => ?_, fun v w n hv hw => ?_⟩
  · rw [d.toUInt32_eq, d.toInt32_eq, Double.truncated_of_rational? value, Option.getD_some,
      toNat_ofInt, toInt_ofInt]
    split_ifs <;> omega
  · rw [d.toUInt32_eq, d.toInt32_eq, Double.truncated_of_isFinite_eq_false infinite]
    exact ⟨rfl, rfl⟩
  · rw [v.toUInt32_eq, v.toInt32_eq, toNat_ofInt, toInt_ofInt]
    split_ifs <;> omega
  · rw [v.toInt32_eq, w.toInt32_eq, v.toUInt32_eq, w.toUInt32_eq, Value.wholePart_of_rational? hv,
      Value.wholePart_of_rational? hw]
    exact ⟨rfl, rfl⟩

/-- What is beyond the lower end of the range comes in again at the upper end. -/
theorem wraps_wholePart_below :
    ((Double.ofRatio true 8589934595 2).rational? = some (-8589934595 / 2) ∧
      (Double.ofRatio true 8589934595 2).toInt32.toInt % 4294967296 =
        wholePart (-8589934595 / 2) % 4294967296) ∧
    ((Double.infinity true).isFinite = false ∧ (Double.infinity true).toInt32 = 0) ∧
    ((Value.int (-1)).rational? = some ((-1 : ℤ) : ℚ) ∧
      (Value.number (.ofInt (-1))).rational? = some ((-1 : ℤ) : ℚ) ∧
      (Value.int (-1)).toUInt32 = (Value.number (.ofInt (-1))).toUInt32) := by
  have value : (Double.ofRatio true 8589934595 2).rational? = some (-8589934595 / 2) := by
    decide +kernel
  have signed : (Value.int (-1)).rational? = some ((-1 : ℤ) : ℚ) := by decide +kernel
  have double : (Value.number (.ofInt (-1))).rational? = some ((-1 : ℤ) : ℚ) := by decide +kernel
  have halves := wraps_wholePart (.ofRatio true 8589934595 2)
  have infinite := wraps_wholePart (.infinity true)
  exact ⟨⟨value, (halves.1 _ value).2.1⟩, ⟨rfl, (infinite.2.1 rfl).2⟩, signed, double,
    (infinite.2.2.2 _ _ _ signed double).2⟩

end ClassLink
