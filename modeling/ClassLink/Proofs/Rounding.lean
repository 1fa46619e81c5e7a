import ClassLink.Proofs.WholeNumbers
import Mathlib.Algebra.Order.Field.Basic
import Mathlib.Algebra.Order.Field.Rat
import Mathlib.Tactic.FieldSimp
import Mathlib.Tactic.Linarith
import Mathlib.Tactic.NormNum
import Mathlib.Tactic.Push
import Mathlib.Tactic.Ring

/-!
# Rounding to the nearest double

Every finite double is an exact rational number (`rational?`), and what an operation gives is the
double *nearest* to its exact result: no other double lies nearer, and where another one lies as
near, the digits in use of the one that was taken are even (`IsNearest`). This is said without the
functions that round, and they meet it, on every quotient that stays in range
(`isNearest_ofUnitRatio`).

The argument has two halves. `roundQuotient` takes the nearest multiple of a spacing. `roundUnits`
takes for the spacing that of the doubles with as many digits as the quotient; the doubles with
fewer digits, which lie closer together, all lie below the power of two at the bottom of that range,
and this power is a multiple of the spacing that lies between them and the quotient.
-/

namespace ClassLink.Double

/- Powers of natural numbers are those of core, as in the definitions. -/
attribute [local instance (2000)] instPowNat

/- Both are powers of two too large to be written out. -/
attribute [local irreducible] one limit

/-! ### Exact values -/

/-- The rational number that a finite double is. -/
def rational? : Double → Option ℚ
  | .finite negative units _ => some ((signed negative units : ℤ) / (one : ℕ))
  | _ => none

theorem one_cast_pos : (0 : ℚ) < (one : ℕ) := Nat.cast_pos.mpr one_pos

theorem rational?_eq_some_iff {d : Double} {q : ℚ} :
    d.rational? = some q ↔ d.isFinite = true ∧ ∃ p : ℤ, d.position = some p ∧ q = p / (one : ℕ) := by
  cases d with
  | nan => simp [rational?, isFinite]
  | infinity negative => simp [rational?, isFinite]
  | finite negative units fits => simp [rational?, isFinite, position, eq_comm]

theorem isFinite_iff_rational? {d : Double} : d.isFinite = true ↔ ∃ q, d.rational? = some q := by
  cases d <;> simp [rational?, isFinite]

/-- A double that is a whole number is that number exactly. -/
theorem rational?_eq_intCast_iff {d : Double} {n : ℤ} :
    d.rational? = some (n : ℚ) ↔ d.toInt? = some n := by
  have pos := one_cast_pos
  rw [rational?_eq_some_iff, toInt?_eq_some_iff]
  refine and_congr_right fun _ => ?_
  constructor
  · rintro ⟨p, h, same⟩
    rw [eq_div_iff pos.ne'] at same
    rw [h]
    exact congrArg some (by exact_mod_cast same.symm)
  · intro h
    refine ⟨_, h, ?_⟩
    push_cast
    exact (mul_div_cancel_right₀ _ pos.ne').symm

/-! ### The nearest multiple of a spacing -/

/-- A multiple other than the two around a number is further away than both. -/
theorem mul_apart (n q den : ℕ) :
    n * den + den ≤ q * den ∨ n = q ∨ n = q + 1 ∨ q * den + 2 * den ≤ n * den := by
  rcases Nat.lt_or_ge n q with below | above
  · left
    calc n * den + den = (n + 1) * den := (Nat.succ_mul n den).symm
      _ ≤ q * den := Nat.mul_le_mul_right den below
  · rcases Nat.lt_or_ge (q + 1) n with beyond | beside
    · right; right; right
      calc q * den + 2 * den = (q + 2) * den := (Nat.add_mul q 2 den).symm
        _ ≤ n * den := Nat.mul_le_mul_right den beyond
    · omega

/-- `roundQuotient` takes the multiple of the denominator that is nearest to the numerator, and an
even one of two that are equally near. -/
theorem roundQuotient_nearest {num den n : ℕ} (pos : 0 < den) (other : n ≠ roundQuotient num den) :
    ((num : ℤ) - (roundQuotient num den * den : ℕ)).natAbs < ((num : ℤ) - (n * den : ℕ)).natAbs ∨
      ((num : ℤ) - (roundQuotient num den * den : ℕ)).natAbs = ((num : ℤ) - (n * den : ℕ)).natAbs ∧
        roundQuotient num den % 2 = 0 := by
  have split := Nat.div_add_mod' num den
  have small := Nat.mod_lt num pos
  have next : (num / den + 1) * den = num / den * den + den := Nat.succ_mul _ _
  have apart := mul_apart n (num / den) den
  unfold roundQuotient at other ⊢
  dsimp only at other ⊢
  split_ifs at other ⊢ with down up
  · rcases apart with lower | rfl | rfl | upper <;> omega
  · rcases apart with lower | rfl | rfl | upper <;> omega
  · rcases Nat.mod_two_eq_zero_or_one (num / den) with even | odd
    · rw [even, Nat.add_zero] at other ⊢
      rcases apart with lower | rfl | rfl | upper <;> omega
    · rw [odd] at other ⊢
      rcases apart with lower | rfl | rfl | upper <;> omega

/-! ### The nearest count of units -/

/-- Zeros at the end are digits like others. -/
theorem log2_mul_two_pow {m : ℕ} (h : m ≠ 0) (k : ℕ) : (m * 2 ^ k).log2 = m.log2 + k := by
  have pos := Nat.two_pow_pos k
  rw [Nat.log2_eq_iff (Nat.mul_ne_zero h pos.ne')]
  constructor
  · rw [Nat.pow_add]
    exact Nat.mul_le_mul_right _ (Nat.log2_self_le h)
  · rw [Nat.add_right_comm, Nat.pow_add]
    exact Nat.mul_lt_mul_of_pos_right Nat.lt_log2_self pos

/-- With `k` spare digits beside them, up to 53 digits in use are read off again. -/
theorem spare_mul_two_pow {m k : ℕ} (high : m < 2 ^ (fractionDigits + 1))
    (low : k = 0 ∨ 2 ^ fractionDigits ≤ m) : spare (m * 2 ^ k) = k := by
  unfold spare
  by_cases zero : m = 0
  · have none : k = 0 := by
      rcases low with none | low
      · exact none
      · exact absurd (zero ▸ low) (by decide)
    subst zero none
    decide
  · have log : (m * 2 ^ k).log2 = m.log2 + k := log2_mul_two_pow zero k
    have bound : m.log2 < fractionDigits + 1 := (Nat.log2_lt zero).mpr high
    rcases low with rfl | low
    · omega
    · have atLeast : fractionDigits ≤ m.log2 := (Nat.le_log2 zero).mpr low
      omega

/-- If the rounded quotient is even, so are the digits in use of the count that it gives. A quotient
of 54 digits is a power of two. -/
theorem even_digits {m k : ℕ} (high : m ≤ 2 ^ (fractionDigits + 1))
    (low : k = 0 ∨ 2 ^ fractionDigits ≤ m) (even : m % 2 = 0) :
    m * 2 ^ k / 2 ^ spare (m * 2 ^ k) % 2 = 0 := by
  rcases Nat.lt_or_eq_of_le high with high | rfl
  · rw [spare_mul_two_pow high low, Nat.mul_div_cancel _ (Nat.two_pow_pos k)]
    exact even
  · have halve : 2 ^ (fractionDigits + 1) * 2 ^ k = 2 ^ fractionDigits * 2 ^ (k + 1) := by
      rw [← Nat.pow_add, ← Nat.pow_add]
      congr 1
      omega
    rw [halve, spare_mul_two_pow (by decide) (.inr (Nat.le_refl _)),
      Nat.mul_div_cancel _ (Nat.two_pow_pos _)]
    decide

section
variable {num den v : ℕ}

/-- The whole part of a quotient has at most 53 digits in use once its spare ones are cut off, and
exactly 53 if there are any. -/
theorem roundQuotient_bounds (num den : ℕ) :
    roundQuotient num (den * 2 ^ spare (num / den)) ≤ 2 ^ (fractionDigits + 1) ∧
      (spare (num / den) = 0 ∨
        2 ^ fractionDigits ≤ roundQuotient num (den * 2 ^ spare (num / den))) := by
  have cut : num / (den * 2 ^ spare (num / den)) = num / den / 2 ^ spare (num / den) :=
    (Nat.div_div_eq_div_mul ..).symm
  have upper := roundQuotient_le num (den * 2 ^ spare (num / den))
  have lower : num / (den * 2 ^ spare (num / den)) ≤
      roundQuotient num (den * 2 ^ spare (num / den)) := by
    unfold roundQuotient
    grind
  rw [cut] at upper lower
  constructor
  · have below : num / den / 2 ^ spare (num / den) < 2 ^ (fractionDigits + 1) := by
      rw [Nat.div_lt_iff_lt_mul (Nat.two_pow_pos _), ← Nat.pow_add]
      exact lt_two_pow_spare (num / den)
    omega
  · rcases Nat.eq_zero_or_pos (spare (num / den)) with none | some
    · exact .inl none
    · right
      refine le_trans ?_ lower
      rw [Nat.le_div_iff_mul_le (Nat.two_pow_pos _)]
      exact two_pow_spare_le some

/-- A double that is no multiple of the spacing of a range lies below the range. -/
theorem lt_of_not_dvd (fits : Fits v) {k : ℕ} (apart : ¬ 2 ^ k ∣ v) :
    0 < k ∧ v < 2 ^ fractionDigits * 2 ^ k := by
  have fewer : spare v < k := by
    by_contra more
    exact apart (Nat.dvd_trans (Nat.pow_dvd_pow 2 (Nat.le_of_not_lt more)) fits.1)
  refine ⟨Nat.zero_lt_of_lt fewer, ?_⟩
  rw [← Nat.pow_add]
  refine lt_of_lt_of_le Nat.lt_log2_self (Nat.pow_le_pow_right Nat.two_pos ?_)
  unfold spare at fewer
  omega

/-- `roundUnits` takes the count of units of a double that is nearest to the quotient, and one with
even digits in use of two that are equally near. -/
theorem roundUnits_nearest (pos : 0 < den) (fits : Fits v) (other : v ≠ roundUnits num den) :
    ((num : ℤ) - (roundUnits num den * den : ℕ)).natAbs < ((num : ℤ) - (v * den : ℕ)).natAbs ∨
      ((num : ℤ) - (roundUnits num den * den : ℕ)).natAbs = ((num : ℤ) - (v * den : ℕ)).natAbs ∧
        roundUnits num den / 2 ^ spare (roundUnits num den) % 2 = 0 := by
  obtain ⟨high, low⟩ := roundQuotient_bounds num den
  unfold roundUnits at other ⊢
  dsimp only at other ⊢
  generalize spacing : spare (num / den) = k at *
  have wide : 0 < den * 2 ^ k := Nat.mul_pos pos (Nat.two_pow_pos k)
  have regroup : ∀ n, n * 2 ^ k * den = n * (den * 2 ^ k) := fun n => by
    rw [Nat.mul_assoc, Nat.mul_comm (2 ^ k)]
  rw [regroup]
  by_cases multiple : 2 ^ k ∣ v
  · obtain ⟨n, rfl⟩ := multiple
    rw [Nat.mul_comm (2 ^ k) n] at other ⊢
    rw [regroup]
    rcases roundQuotient_nearest wide (fun same => other (congrArg (· * 2 ^ k) same)) with
      nearer | ⟨tie, even⟩
    · exact .inl nearer
    · exact .inr ⟨tie, even_digits high low even⟩
  · obtain ⟨some, below⟩ := lt_of_not_dvd fits multiple
    -- the power of two at the bottom of the range lies between the double and the quotient
    have bottom : 2 ^ fractionDigits * (den * 2 ^ k) ≤ num := by
      rw [← regroup, ← Nat.le_div_iff_mul_le pos]
      exact spacing ▸ two_pow_spare_le (spacing.symm ▸ some)
    have beyond : v * den < 2 ^ fractionDigits * (den * 2 ^ k) := by
      rw [← regroup]
      exact Nat.mul_lt_mul_of_pos_right below pos
    left
    by_cases same : 2 ^ fractionDigits = roundQuotient num (den * 2 ^ k)
    · rw [← same]
      omega
    · rcases roundQuotient_nearest wide same with nearer | ⟨tie, _⟩ <;> omega

/-- Doubles of the other sign are no nearer: zero lies between. -/
theorem roundUnits_nearest_int (pos : 0 < den) {r : ℤ} (fits : Fits r.natAbs)
    (other : r ≠ roundUnits num den) :
    ((num : ℤ) - (roundUnits num den * den : ℕ)).natAbs < ((num : ℤ) - r * den).natAbs ∨
      ((num : ℤ) - (roundUnits num den * den : ℕ)).natAbs = ((num : ℤ) - r * den).natAbs ∧
        roundUnits num den / 2 ^ spare (roundUnits num den) % 2 = 0 := by
  rcases lt_or_ge r 0 with negative | nonneg
  · have further : (num : ℤ) - r * den ≥ num + den := by
      have one_step : r * den ≤ -1 * den :=
        Int.mul_le_mul_of_nonneg_right (by omega) (Int.natCast_nonneg den)
      omega
    left
    by_cases zero : 0 = roundUnits num den
    · rw [← zero]
      omega
    · rcases roundUnits_nearest pos fits_zero zero with nearer | ⟨tie, _⟩ <;> omega
  · obtain ⟨v, rfl⟩ := Int.eq_ofNat_of_zero_le nonneg
    exact roundUnits_nearest pos fits (fun same => other (congrArg Nat.cast same))

end

/-! ### The nearest double -/

/-- The last of the digits in use is even. -/
def EvenDigits : Double → Prop
  | .finite _ units _ => units / 2 ^ spare units % 2 = 0
  | _ => False

/-- A finite double is nearest to a number if every other one lies further away, or as far away
while the digits in use of the first are even. -/
structure IsNearest (x : Double) (q : ℚ) : Prop where
  isFinite : x.isFinite = true
  nearest : ∀ (p r : ℚ) (y : Double), x.rational? = some p → y.rational? = some r → r ≠ p →
    |p - q| < |r - q| ∨ |p - q| = |r - q| ∧ x.EvenDigits

theorem signed_true (m : ℕ) : signed true m = -(m : ℤ) := rfl

theorem natAbs_neg_sub (num den : ℕ) (z : ℤ) :
    (-(num : ℤ) - z * den).natAbs = ((num : ℤ) - -z * den).natAbs := by
  rw [← Int.natAbs_neg]
  congr 1
  ring

/-- The distance of a count of units from a quotient, over the denominator. -/
theorem abs_sub_div {den : ℕ} (pos : 0 < den) (p a : ℤ) :
    |(p : ℚ) / (one : ℕ) - a / (den * one : ℕ)| = (a - p * den).natAbs / (den * one : ℕ) := by
  have units := one_cast_pos
  have parts : (0 : ℚ) < den := Nat.cast_pos.mpr pos
  have common : (p : ℚ) / (one : ℕ) - a / (den * one : ℕ) =
      ((p * den - a : ℤ) : ℚ) / (den * one : ℕ) := by
    push_cast
    field_simp
  rw [common, abs_div, Nat.abs_cast, Nat.cast_natAbs, ← Int.cast_abs, abs_sub_comm]

/-- **Rounding takes the nearest double**, if that does not lie beyond all of them. -/
theorem isNearest_ofUnitRatio {num den : ℕ} (pos : 0 < den) (inRange : roundUnits num den < limit)
    (negative : Bool) :
    (ofUnitRatio negative num den).IsNearest ((signed negative num : ℤ) / (den * one : ℕ)) := by
  have taken : ofUnitRatio negative num den =
      .finite negative (roundUnits num den) (fits_roundUnits inRange) := dif_pos inRange
  have scaled : (0 : ℚ) < (den * one : ℕ) := Nat.cast_pos.mpr (Nat.mul_pos pos one_pos)
  rw [taken]
  refine ⟨rfl, ?_⟩
  rintro p r y hp hy different
  obtain rfl := Option.some.inj hp
  obtain ⟨-, v, place, rfl⟩ := rational?_eq_some_iff.mp hy
  cases y with
  | nan | infinity => cases hy
  | finite other units fits =>
    obtain rfl := Option.some.inj place
    have apart : signed other units ≠ signed negative (roundUnits num den) := fun same =>
      different (by rw [same])
    rw [abs_sub_div pos, abs_sub_div pos, div_lt_div_iff_of_pos_right scaled,
      div_left_inj' scaled.ne', Nat.cast_lt, Nat.cast_inj]
    generalize place : signed other units = z at apart
    have size : Fits z.natAbs := by rwa [← place, natAbs_signed]
    cases negative with
    | false => exact roundUnits_nearest_int pos size apart
    | true =>
      rw [signed_true] at apart
      rw [signed_true, signed_true, natAbs_neg_sub, natAbs_neg_sub, Int.neg_neg]
      exact roundUnits_nearest_int pos (by rwa [Int.natAbs_neg]) (by omega)

theorem roundUnits_le (num den : ℕ) : roundUnits num den ≤ 2 * (num / den) + 1 := by
  have upper := roundQuotient_le num (den * 2 ^ spare (num / den))
  rw [← Nat.div_div_eq_div_mul] at upper
  have scaled := Nat.mul_le_mul_right (2 ^ spare (num / den)) upper
  have whole := Nat.div_mul_le_self (num / den) (2 ^ spare (num / den))
  have spacing : 2 ^ spare (num / den) ≤ num / den + 1 := by
    by_cases zero : num / den = 0
    · rw [zero]
      decide
    · refine le_trans (Nat.pow_le_pow_right Nat.two_pos (Nat.sub_le _ _)) ?_
      exact Nat.le_succ_of_le (Nat.log2_self_le zero)
  rw [Nat.succ_mul] at scaled
  unfold roundUnits
  dsimp only
  omega

/-- An integer of up to 1022 binary digits is converted to the nearest double. -/
theorem isNearest_ofInt {n : ℤ} {k : ℕ} (small : n.natAbs < 2 ^ k) (room : k ≤ 1022) :
    (ofInt n).IsNearest n := by
  have space : 2 ^ k * one * 2 ^ 2 ≤ limit := by
    unfold one limit
    rw [← Nat.pow_add, ← Nat.pow_add]
    exact Nat.pow_le_pow_right Nat.two_pos (by omega)
  have pos := one_pos
  have bound : n.natAbs * one + one ≤ 2 ^ k * one := by
    rw [← Nat.succ_mul]
    exact Nat.mul_le_mul_right one small
  have inRange : roundUnits (n.natAbs * one) 1 < limit := by
    have le := roundUnits_le (n.natAbs * one) 1
    rw [Nat.div_one] at le
    omega
  have nearest := isNearest_ofUnitRatio Nat.one_pos inRange (n < 0)
  rw [signed_mul, signed_natAbs] at nearest
  push_cast at nearest
  rw [one_mul, mul_div_cancel_right₀ _ one_cast_pos.ne'] at nearest
  exact nearest

/-- Nothing is nearer to a double than the double. -/
theorem isNearest_self {x : Double} {p : ℚ} (value : x.rational? = some p) : x.IsNearest p := by
  refine ⟨isFinite_iff_rational?.mpr ⟨p, value⟩, fun p' r y hp _ different => ?_⟩
  obtain rfl := Option.some.inj (value.symm.trans hp)
  left
  rw [sub_self, abs_zero]
  exact abs_pos.mpr (sub_ne_zero.mpr different)

end ClassLink.Double
