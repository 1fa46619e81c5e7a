import ClassLink.Number.Arithmetic
import ClassLink.Proofs.WholeNumbers
import Mathlib.Algebra.Order.Ring.Int
import Mathlib.Tactic.Ring

/-!
# Arithmetic on whole numbers

On whole numbers the operations of the doubles are those of the integers, as long as the result is a
double: cutting off a fraction always gives one (`toInt?_trunc`), and so does the remainder of a
division, which has no more digits in use than one of the two operands (`toInt?_rem`). A sum does if
it has at most 53 binary digits (`toInt?_add`).

Each operation is said by its effect on `toInt?`, the whole number that a double is. The two zeros
are one whole number, so the signs of zeros do not come into it.
-/

namespace ClassLink.Double

/- Powers of natural numbers are those of core, as in the definitions. -/
attribute [local instance (2000)] instPowNat

/- Both are powers of two too large to be written out. -/
attribute [local irreducible] one limit

/-! ### Digits in use -/

section
variable {u v : ℕ}

/-- The magnitude of a double is fewer than 54 digits followed by zeros. -/
theorem Fits.exists_digits (h : Fits u) : ∃ m k, m < 2 ^ (fractionDigits + 1) ∧ u = m * 2 ^ k := by
  refine ⟨u / 2 ^ spare u, spare u, ?_, (Nat.div_mul_cancel h.1).symm⟩
  rw [Nat.div_lt_iff_lt_mul (Nat.two_pow_pos _), ← Nat.pow_add]
  exact lt_two_pow_spare u

/-- A remainder has no digits below those of both operands, and is not above either of them. -/
theorem Fits.mod (hu : Fits u) (hv : Fits v) : Fits (u % v) := by
  have bound : u % v < limit := lt_of_le_of_lt (Nat.mod_le u v) hu.2
  obtain ⟨m, k, hm, rfl⟩ := hu.exists_digits
  obtain ⟨n, l, hn, rfl⟩ := hv.exists_digits
  rcases Nat.le_total k l with le | le
  · obtain ⟨j, rfl⟩ := Nat.exists_eq_add_of_le le
    have align : m * 2 ^ k % (n * 2 ^ (k + j)) = m % (n * 2 ^ j) * 2 ^ k := by
      rw [Nat.pow_add, Nat.mul_comm (2 ^ k), ← Nat.mul_assoc, Nat.mul_mod_mul_right]
    rw [align] at bound ⊢
    exact fits_mul_two_pow (le_trans (Nat.mod_le _ _) hm.le) bound
  · obtain ⟨j, rfl⟩ := Nat.exists_eq_add_of_le le
    have align : m * 2 ^ (l + j) % (n * 2 ^ l) = m * 2 ^ j % n * 2 ^ l := by
      rw [Nat.pow_add, Nat.mul_comm (2 ^ l), ← Nat.mul_assoc, Nat.mul_mod_mul_right]
    by_cases zero : n = 0
    · subst zero
      simpa using hu
    · rw [align] at bound ⊢
      exact fits_mul_two_pow (le_trans (Nat.mod_lt _ (Nat.pos_of_ne_zero zero)).le hn.le) bound

/-- Cutting off the digits after the point leaves a double. -/
theorem Fits.whole (h : Fits u) : Fits (u / one * one) := by
  have bound : u / one * one < limit := lt_of_le_of_lt (Nat.div_mul_le_self u one) h.2
  obtain ⟨m, k, hm, rfl⟩ := h.exists_digits
  rcases Nat.le_total scale k with le | le
  · have divides : one ∣ m * 2 ^ k := by
      rw [one]
      exact Nat.dvd_trans (Nat.pow_dvd_pow 2 le) (Nat.dvd_mul_left ..)
    rwa [Nat.div_mul_cancel divides]
  · obtain ⟨j, shift⟩ := Nat.exists_eq_add_of_le le
    have align : m * 2 ^ k / one = m / 2 ^ j := by
      rw [one, shift, Nat.pow_add, Nat.mul_comm (2 ^ k), Nat.mul_div_mul_right _ _ (Nat.two_pow_pos k)]
    rw [align, one] at bound ⊢
    exact fits_mul_two_pow (le_trans (Nat.div_le_self _ _) hm.le) bound

end

/-! ### Whole numbers, written out -/

theorem ofUnits_of_fits {units : ℕ} (negative : Bool) (h : Fits units) :
    ofUnits negative units = .finite negative units h :=
  ofUnitRatio_of_fits negative h

theorem toInt?_finite {m : ℕ} (negative : Bool) (fits : Fits (m * one)) :
    (finite negative (m * one) fits).toInt? = some (signed negative m) := by
  rw [toInt?, if_pos (Nat.mul_mod_left ..), Nat.mul_div_cancel _ one_pos]

/-- A whole number is a sign and its magnitude in units. -/
theorem exists_of_toInt? {d : Double} {n : ℤ} (h : d.toInt? = some n) :
    ∃ negative fits, d = .finite negative (n.natAbs * one) fits ∧ signed negative n.natAbs = n := by
  cases d with
  | nan | infinity => cases h
  | finite negative units fits =>
    simp only [toInt?] at h
    split at h
    · rename_i whole
      obtain rfl := Option.some.inj h
      have size : (signed negative (units / one)).natAbs * one = units := by
        rw [natAbs_signed, Nat.div_mul_cancel (Nat.dvd_of_mod_eq_zero whole)]
      refine ⟨negative, size.symm ▸ fits, ?_, by rw [natAbs_signed]⟩
      congr
      exact size.symm
    · cases h

section
variable {a b : Double} {m n : ℤ}

theorem position_of_toInt? (h : a.toInt? = some m) : a.position = some (m * one) :=
  (toInt?_eq_some_iff.mp h).2

/-- Up to 53 binary digits are a double, and up to as many zeros behind them as there is room for. -/
theorem toInt?_ofNat_of_le {k : ℕ} (h : k ≤ 2 ^ 53) : (ofNat k).toInt? = some (k : ℤ) :=
  toInt?_of_position (by rwa [Int.natAbs_natCast]) (position_ofNat h)

/-- Both zeros are the whole number 0. -/
theorem toInt?_finite_zero (negative : Bool) : (finite negative 0 fits_zero).toInt? = some 0 := by
  rw [toInt?, Nat.zero_mod, if_pos rfl, Nat.zero_div]
  cases negative <;> rfl

theorem toInt?_zero : zero.toInt? = some 0 := toInt?_finite_zero false

/-- An integer that some double is, is the double it converts to. -/
theorem toInt?_ofInt_of_toInt? (h : a.toInt? = some m) : (ofInt m).toInt? = some m := by
  obtain ⟨negative, fits, rfl, same⟩ := exists_of_toInt? h
  rw [ofInt, ofRatio, ofUnitRatio_of_fits _ fits, toInt?_finite, signed_natAbs]

/-- No two doubles are the same whole number but the two zeros. -/
theorem eq_of_toInt? (ha : a.toInt? = some m) (hb : b.toInt? = some m) (nonzero : m ≠ 0) :
    a = b := by
  obtain ⟨s, fa, rfl, sa⟩ := exists_of_toInt? ha
  obtain ⟨t, fb, rfl, sb⟩ := exists_of_toInt? hb
  have sign : s = t := by
    rcases s with _ | _ <;> rcases t with _ | _
    · rfl
    · change (m.natAbs : ℤ) = m at sa
      change -(m.natAbs : ℤ) = m at sb
      omega
    · change -(m.natAbs : ℤ) = m at sa
      change (m.natAbs : ℤ) = m at sb
      omega
    · rfl
  subst sign
  rfl

/-! ### Comparing -/

theorem less_iff (ha : a.toInt? = some m) (hb : b.toInt? = some n) : a.less b = true ↔ m < n := by
  unfold less
  rw [position_of_toInt? ha, position_of_toInt? hb]
  simp only [decide_eq_true_eq]
  exact Int.mul_lt_mul_right (Int.natCast_pos.mpr one_pos)

theorem atLeast_iff (ha : a.toInt? = some m) (hb : b.toInt? = some n) :
    a.atLeast b = true ↔ n ≤ m := by
  unfold atLeast
  rw [position_of_toInt? ha, position_of_toInt? hb]
  simp only [decide_eq_true_eq]
  exact Int.mul_le_mul_right (Int.natCast_pos.mpr one_pos)

/-- A whole number between the bounds is kept. -/
theorem held_of_toInt? (h : a.toInt? = some m) {low high : ℤ} (hl : low ≤ m) (hh : m ≤ high) :
    a.held low high = m := by
  obtain ⟨negative, fits, rfl, same⟩ := exists_of_toInt? h
  simp only [held, Nat.mul_div_cancel _ one_pos, same]
  rw [if_neg (by omega), if_neg (by omega)]

/-! ### Computing -/

/-- The integer part of a finite number is a whole number. -/
theorem toInt?_trunc (h : a.truncated = some m) : a.trunc.toInt? = some m := by
  cases a with
  | nan | infinity => cases h
  | finite negative units fits =>
    obtain rfl := Option.some.inj h
    rw [trunc, ofUnits_of_fits negative fits.whole, toInt?_finite]

/-- Finite numbers are those that have an integer part. -/
theorem isFinite_iff_truncated : a.isFinite = true ↔ ∃ m, a.truncated = some m := by
  cases a <;> simp [isFinite, truncated]

/-- A finite number is whole exactly if it is equal to its integer part. -/
theorem equal_trunc_iff (h : a.isFinite = true) :
    a.equal a.trunc = true ↔ ∃ m, a.toInt? = some m := by
  constructor
  · intro same
    obtain ⟨m, part⟩ := isFinite_iff_truncated.mp h
    exact ⟨m, (toInt?_congr same).trans (toInt?_trunc part)⟩
  · rintro ⟨m, whole⟩
    have part := toInt?_trunc (truncated_of_toInt? whole)
    exact equal_iff.mpr ⟨_, position_of_toInt? whole, position_of_toInt? part⟩

theorem toInt?_neg (h : a.toInt? = some m) : a.neg.toInt? = some (-m) := by
  obtain ⟨negative, fits, rfl, same⟩ := exists_of_toInt? h
  rw [neg, toInt?_finite]
  refine congrArg some ?_
  rw [← same, natAbs_signed]
  cases negative <;> simp [signed]

theorem toInt?_abs (h : a.toInt? = some m) : a.abs.toInt? = some (m.natAbs : ℤ) := by
  obtain ⟨negative, fits, rfl, same⟩ := exists_of_toInt? h
  rw [abs, toInt?_finite]
  rfl

/-- A sum of at most 53 binary digits is not rounded. -/
theorem toInt?_add (ha : a.toInt? = some m) (hb : b.toInt? = some n)
    (small : (m + n).natAbs ≤ 2 ^ 53) : (a.add b).toInt? = some (m + n) := by
  obtain ⟨s, fa, rfl, sa⟩ := exists_of_toInt? ha
  obtain ⟨t, fb, rfl, sb⟩ := exists_of_toInt? hb
  have sum : signed s (m.natAbs * one) + signed t (n.natAbs * one) = (m + n) * one := by
    rw [signed_mul, signed_mul, sa, sb, Int.add_mul]
  have pos : (0 : ℤ) < one := Int.natCast_pos.mpr one_pos
  simp only [add, sum, Int.mul_eq_zero, pos.ne', or_false]
  split
  · rename_i zero
    rw [zero, ofUnits_of_fits _ fits_zero, toInt?_finite_zero]
  · have size : ((m + n) * (one : ℤ)).natAbs = (m + n).natAbs * one := by
      rw [Int.natAbs_mul, Int.natAbs_natCast]
    have sign : ((m + n) * (one : ℤ) < 0) = (m + n < 0) := by
      simpa using Int.mul_lt_mul_right (b := m + n) (c := 0) pos
    rw [size, ofUnits_of_fits _ (fits_whole small), toInt?_finite]
    simp only [sign]
    rw [signed_natAbs]

theorem signed_tmod (negative : Bool) (k : ℕ) (n : ℤ) :
    (signed negative k).tmod n = signed negative (k % n.natAbs) := by
  have positive : (k : ℤ).tmod n = ((k % n.natAbs : ℕ) : ℤ) := by
    obtain ⟨j, rfl | rfl⟩ := n.eq_nat_or_neg
    · rw [Int.natAbs_natCast, Int.ofNat_tmod]
    · rw [Int.tmod_neg, Int.natAbs_neg, Int.natAbs_natCast, Int.ofNat_tmod]
  cases negative with
  | false => exact positive
  | true =>
    change (-(k : ℤ)).tmod n = -((k % n.natAbs : ℕ) : ℤ)
    rw [Int.neg_tmod, positive]

/-- The remainder of a division is exact; it has the sign of the first operand. -/
theorem toInt?_rem (ha : a.toInt? = some m) (hb : b.toInt? = some n) (nonzero : n ≠ 0) :
    (a.rem b).toInt? = some (m.tmod n) := by
  obtain ⟨s, fa, rfl, sa⟩ := exists_of_toInt? ha
  obtain ⟨t, fb, rfl, sb⟩ := exists_of_toInt? hb
  have divisor : n.natAbs * one ≠ 0 :=
    Nat.mul_ne_zero (Int.natAbs_ne_zero.mpr nonzero) one_pos.ne'
  have left : Fits (m.natAbs % n.natAbs * one) := by
    rw [← Nat.mul_mod_mul_right]
    exact fa.mod fb
  rw [rem, if_neg divisor, Nat.mul_mod_mul_right, ofUnits_of_fits s left, toInt?_finite, ← sa,
    signed_tmod, natAbs_signed]

/-- The remainder that is not negative. One divisor is added to a negative remainder, and the sum is
nearer to zero than the divisor. -/
theorem toInt?_remEuclid (ha : a.toInt? = some m) (hb : b.toInt? = some n) (nonzero : n ≠ 0)
    (small : n.natAbs ≤ 2 ^ 53) : (a.remEuclid b).toInt? = some (m % n) := by
  have rest := toInt?_rem ha hb nonzero
  have sign := less_iff rest toInt?_zero
  have low := Int.emod_nonneg m nonzero
  have high : m % n < n.natAbs := Int.emod_lt m nonzero
  have cut := Int.tmod_eq_emod (a := m) (b := n)
  unfold remEuclid
  dsimp only
  by_cases below : m.tmod n < 0
  · have sum : m.tmod n + n.natAbs = m % n := by
      split at cut <;> omega
    rw [if_pos (sign.mpr below), toInt?_add rest (toInt?_abs hb) (by omega), sum]
  · have same : m.tmod n = m % n := by
      split at cut <;> omega
    rw [if_neg (fun h => below (sign.mp h)), rest, same]

end

end ClassLink.Double
