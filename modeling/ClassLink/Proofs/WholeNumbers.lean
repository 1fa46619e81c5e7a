import ClassLink.Number.Double
import Mathlib.Algebra.Group.Nat.Defs
import Mathlib.Data.Int.Basic

/-!
# Whole numbers among the doubles

Rounding leaves a count of units alone if it is that of a double already (`roundUnits_of_fits`).
So every whole number of up to 53 binary digits is a double, and lies where it should
(`position_ofInt`, `position_ofNat`); and which whole number a finite double is can be read off
its place on the line (`toInt?_eq_some_iff`). In particular doubles that are equal are the same
whole number, or neither is one (`toInt?_congr`).
-/

namespace ClassLink.Double

/- Powers of natural numbers are those of core, as in the definitions. -/
attribute [local instance (2000)] instPowNat

/- Both are powers of two too large to be written out. -/
attribute [local irreducible] one limit

/-! ### Digits in use -/

/-- Besides the spare ones there are at most 53 binary digits. -/
theorem lt_two_pow_spare (n : Nat) : n < 2 ^ (fractionDigits + 1 + spare n) := by
  refine lt_of_lt_of_le Nat.lt_log2_self (Nat.pow_le_pow_right Nat.two_pos ?_)
  unfold spare
  omega

/-- Where there are spare digits, all 53 others are in use. -/
theorem two_pow_spare_le {n : Nat} (some : 0 < spare n) : 2 ^ fractionDigits * 2 ^ spare n ≤ n := by
  have log : fractionDigits + spare n = n.log2 := by
    unfold spare at some ⊢
    omega
  rw [← Nat.pow_add, log]
  refine Nat.log2_self_le ?_
  rintro rfl
  exact absurd some (by decide)

/-! ### Rounding what needs no rounding -/

theorem roundUnits_of_fits {units : Nat} (h : Fits units) : roundUnits units 1 = units := by
  have rest : units % 2 ^ spare units = 0 := Nat.mod_eq_zero_of_dvd h.1
  have pos : 0 < 2 ^ spare units := Nat.two_pow_pos _
  unfold roundUnits roundQuotient
  simp only [Nat.div_one, Nat.one_mul, rest, Nat.mul_zero, pos, if_true]
  exact Nat.div_mul_cancel h.1

theorem ofUnitRatio_of_fits {units : Nat} (negative : Bool) (h : Fits units) :
    ofUnitRatio negative units 1 = .finite negative units h := by
  have same := roundUnits_of_fits h
  unfold ofUnitRatio
  rw [dif_pos (same.symm ▸ h.2)]
  congr

theorem mul_two_pow_lt {n k : Nat} (m : Nat) (h : n < 2 ^ k) : n * 2 ^ m < 2 ^ (m + k) := by
  rw [Nat.add_comm, Nat.pow_add]
  exact Nat.mul_lt_mul_of_pos_right h (Nat.two_pow_pos m)

/-- A whole number of up to 53 binary digits needs no more of them as a count of units. -/
theorem fits_whole {n : Nat} (h : n ≤ 2 ^ 53) : Fits (n * one) := by
  have lt : n * 2 ^ scale < 2 ^ (scale + 54) :=
    mul_two_pow_lt scale (lt_of_le_of_lt h (by decide))
  have le : 2 ^ (scale + 54) ≤ limit := by
    unfold limit
    exact Nat.pow_le_pow_right Nat.two_pos (Nat.add_le_add_left (by decide) scale)
  rw [one]
  exact fits_mul_two_pow h (lt_of_lt_of_le lt le)

theorem one_pos : 0 < one := by
  rw [one]
  exact Nat.two_pow_pos _

theorem signed_mul (negative : Bool) (m k : Nat) :
    signed negative (m * k) = signed negative m * k := by
  cases negative with
  | false => exact Int.natCast_mul m k
  | true => exact (congrArg Neg.neg (Int.natCast_mul m k)).trans (Int.neg_mul ..).symm

theorem natAbs_signed (negative : Bool) (m : Nat) : (signed negative m).natAbs = m := by
  cases negative <;> simp [signed]

theorem signed_natAbs (n : Int) : signed (n < 0) n.natAbs = n := by
  unfold signed
  split <;> rename_i sign <;> simp only [decide_eq_true_eq] at sign <;> omega

theorem position_ofInt {n : Int} (h : n.natAbs ≤ 2 ^ 53) : (ofInt n).position = some (n * one) := by
  rw [ofInt, ofRatio, ofUnitRatio_of_fits _ (fits_whole h), position, signed_mul, signed_natAbs]

theorem position_ofNat {n : Nat} (h : n ≤ 2 ^ 53) : (ofNat n).position = some ((n : Int) * one) := by
  rw [ofNat, ofRatio, ofUnitRatio_of_fits _ (fits_whole h), position, signed_mul]
  rfl

/-! ### The whole number that a double is -/

theorem equal_iff {a b : Double} :
    a.equal b = true ↔ ∃ p, a.position = some p ∧ b.position = some p := by
  unfold equal
  rcases a.position with _ | p <;> rcases b.position with _ | q
  · simp
  · simp
  · simp
  · constructor
    · intro h
      exact ⟨p, rfl, congrArg some (eq_of_beq h).symm⟩
    · rintro ⟨_, ⟨⟩, ⟨⟩⟩
      exact beq_self_eq_true _

/-- Finite numbers are those that stay below the limit. -/
theorem isFinite_iff_of_position {d : Double} {p : Int} (h : d.position = some p) :
    d.isFinite = true ↔ p.natAbs < limit := by
  cases d with
  | nan => cases h
  | infinity negative =>
    obtain rfl := Option.some.inj h
    simp [isFinite, natAbs_signed]
  | finite negative units fits =>
    obtain rfl := Option.some.inj h
    simp [isFinite, natAbs_signed, fits.2]

/-- A finite double is the whole number that lies where it does. -/
theorem toInt?_eq_some_iff {d : Double} {n : Int} :
    d.toInt? = some n ↔ d.isFinite = true ∧ d.position = some (n * one) := by
  cases d with
  | nan => simp [toInt?, isFinite]
  | infinity negative => simp [toInt?, isFinite]
  | finite negative units fits =>
    simp only [toInt?, isFinite, position, true_and, Option.some.injEq]
    constructor
    · intro h
      split at h
      · rename_i whole
        obtain rfl := Option.some.inj h
        rw [← signed_mul, Nat.div_mul_cancel (Nat.dvd_of_mod_eq_zero whole)]
      · cases h
    · intro h
      have units_eq : units = n.natAbs * one := by
        have abs := congrArg Int.natAbs h
        rwa [natAbs_signed, Int.natAbs_mul, Int.natAbs_natCast] at abs
      subst units_eq
      rw [signed_mul] at h
      have same := Int.eq_of_mul_eq_mul_right (Int.natCast_ne_zero.mpr (Nat.ne_of_gt one_pos)) h
      rw [if_pos (Nat.mul_mod_left ..), Nat.mul_div_cancel _ one_pos, same]

theorem toInt?_congr {a b : Double} (h : a.equal b = true) : a.toInt? = b.toInt? := by
  obtain ⟨p, ha, hb⟩ := equal_iff.mp h
  refine Option.ext fun n => ?_
  rw [toInt?_eq_some_iff, toInt?_eq_some_iff, isFinite_iff_of_position ha,
    isFinite_iff_of_position hb, ha, hb]

/-- The integer part of a whole number is the number. -/
theorem truncated_of_toInt? {d : Double} {n : Int} (h : d.toInt? = some n) :
    d.truncated = some n := by
  cases d with
  | nan | infinity => cases h
  | finite negative units fits =>
    simp only [toInt?] at h
    split at h
    · exact h
    · cases h

/-- Where a whole number of up to 53 binary digits lies there is only that number. -/
theorem toInt?_of_position {d : Double} {n : Int} (small : n.natAbs ≤ 2 ^ 53)
    (h : d.position = some (n * one)) : d.toInt? = some n := by
  refine toInt?_eq_some_iff.mpr ⟨(isFinite_iff_of_position h).mpr ?_, h⟩
  rw [Int.natAbs_mul, Int.natAbs_natCast]
  exact (fits_whole small).2

end ClassLink.Double
