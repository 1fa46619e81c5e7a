import ClassLink.Native.Behavior
import ClassLink.Proofs.Numerals
import ClassLink.Proofs.Rounding
import ClassLink.Proofs.WholeArithmetic

/-!
# Whole numbers in a base

In a base from 2 to 36 other than ten the text of a number is its exact numeral in the base, for
every double that is a whole number of at most 128 binary digits, and no other double has a text
(`textInBase_writes`).

The bound is tested in floating point, against the double nearest to the largest number of 128
digits. That number is no double itself: it is rounded up to the next power of two, so that the test
lets exactly those pass that the conversion to 128 bits keeps.
-/

namespace ClassLink

/- Powers of natural numbers are those of core, as in the definitions. -/
attribute [local instance (2000)] instPowNat

/- Both are powers of two too large to be written out. -/
attribute [local irreducible] Double.one Double.limit

namespace Double

variable {x : Double} {m radix : ℤ}

/-- The bound is rounded up, to the least number of 129 binary digits. -/
theorem toInt?_ofNat_magnitudeMax : (ofNat magnitudeMax).toInt? = some (2 ^ (128 : ℕ)) := by
  decide +kernel

/-- A whole number passes the test of the bound exactly if it has at most 128 binary digits. -/
theorem abs_atLeast_iff (h : x.toInt? = some m) :
    x.abs.atLeast (.ofNat magnitudeMax) = true ↔ 2 ^ (128 : ℕ) ≤ m.natAbs := by
  rw [atLeast_iff (toInt?_abs h) toInt?_ofNat_magnitudeMax]
  norm_cast

/-- Refused are the numbers that are not whole, NaN and the infinities among them. -/
theorem not_isFinite_or_not_equal_iff (x : Double) :
    (!x.isFinite || !x.equal x.trunc) = true ↔ x.toInt? = none := by
  cases finite : x.isFinite with
  | false =>
    cases x with
    | finite => cases finite
    | nan | infinity => simp [toInt?]
  | true =>
    have whole := equal_trunc_iff finite
    cases h : x.toInt? with
    | none =>
      rw [h] at whole
      simpa using whole
    | some m =>
      rw [h] at whole
      simpa using whole

section
variable (other : radix ≠ 10) (low : 2 ≤ radix) (high : radix ≤ 36)
include other low high

theorem inRadix_of_not_whole (h : x.toInt? = none) :
    x.inRadix radix = .error .fractional := by
  rw [inRadix, if_neg other, if_neg (by omega), if_pos ((not_isFinite_or_not_equal_iff x).mpr h)]

/-- A whole number is written digit by digit if the conversion to 128 bits keeps it. -/
theorem inRadix_of_toInt? (h : x.toInt? = some m) : x.inRadix radix =
    if 2 ^ (128 : ℕ) ≤ m.natAbs then .error .tooLarge
    else .ok (String.ofList (Numeral.ofInt radix.toNat m)) := by
  have whole : ¬ (!x.isFinite || !x.equal x.trunc) = true := by
    rw [not_isFinite_or_not_equal_iff, h]
    exact Option.some_ne_none m
  rw [inRadix, if_neg other, if_neg (by omega), if_neg whole]
  by_cases large : 2 ^ (128 : ℕ) ≤ m.natAbs
  · rw [if_pos large, if_pos ((abs_atLeast_iff h).mpr large)]
  · have kept : x.abs.held 0 magnitudeMax = (m.natAbs : ℤ) :=
      held_of_toInt? (toInt?_abs h) (by omega) (by unfold magnitudeMax; omega)
    rw [if_neg large, if_neg fun test => large ((abs_atLeast_iff h).mp test)]
    simp only [kept, Int.toNat_natCast, less_iff h toInt?_zero, Numeral.ofInt]

end

end Double

/-- **Numerals in a base are exact.** A base that is not from 2 to 36 is refused for every number.
In the others, base ten apart, a whole number of at most 128 binary digits is written as it is: a
minus sign exactly before a negative number, small letters, no zero before another digit, and its
value as the value of the digits. No other number is written. -/
theorem textInBase_writes (x : Double) (radix : Int32) :
    (radix.toInt < 2 ∨ 36 < radix.toInt →
      textInBase x (.int radix) = .error (.mismatch (.badRadix (Numeral.decimal radix.toInt)))) ∧
    (2 ≤ radix.toInt → radix.toInt ≤ 36 → radix.toInt ≠ 10 →
      (∀ m : ℤ, x.rational? = some (m : ℚ) → m.natAbs < 2 ^ (128 : ℕ) →
        ∃ text, textInBase x (.int radix) = .ok text ∧
          Numeral.WritesInt radix.toInt.toNat text.toList m) ∧
      (∀ m : ℤ, x.rational? = some (m : ℚ) → 2 ^ (128 : ℕ) ≤ m.natAbs →
        textInBase x (.int radix) =
          .error (.notImplemented "Number.toString with a radix beyond 128-bit magnitudes")) ∧
      ((∀ m : ℤ, x.rational? ≠ some (m : ℚ)) →
        textInBase x (.int radix) =
          .error (.notImplemented "Number.toString with a fractional radix"))) := by
  have base : (Value.int radix).toInt32 = radix := rfl
  unfold textInBase
  simp only [base, Double.rational?_eq_intCast_iff, ne_eq]
  refine ⟨fun outside => ?_, fun low high other => ⟨fun m whole small => ?_,
    fun m whole large => ?_, fun broken => ?_⟩⟩
  · rw [Double.inRadix, if_neg (by omega), if_pos outside]
  · rw [Double.inRadix_of_toInt? other low high whole, if_neg (Nat.not_le_of_lt small)]
    refine ⟨_, rfl, ?_⟩
    rw [String.toList_ofList]
    exact Numeral.writesInt_ofInt (by omega) (by omega) m
  · rw [Double.inRadix_of_toInt? other low high whole, if_pos large]
  · rw [Double.inRadix_of_not_whole other low high (Option.eq_none_iff_forall_ne_some.mpr broken)]

/-- A number beyond 64 binary digits in base 16, the least number beyond 128, a half, and a base
beyond the letters. -/
theorem textInBase_writes_wide :
    ((Double.ofInt (-100000000000000000000)).rational? = some ((-100000000000000000000 : ℤ) : ℚ) ∧
      ∃ text, textInBase (.ofInt (-100000000000000000000)) (.int 16) = .ok text ∧
        Numeral.WritesInt 16 text.toList (-100000000000000000000)) ∧
    textInBase (.ofNat (2 ^ (128 : ℕ))) (.int 16) =
      .error (.notImplemented "Number.toString with a radix beyond 128-bit magnitudes") ∧
    textInBase .half (.int 2) =
      .error (.notImplemented "Number.toString with a fractional radix") ∧
    textInBase .half (.int 37) = .error (.mismatch (.badRadix (Numeral.decimal 37))) := by
  have value : (Double.ofInt (-100000000000000000000)).rational? =
      some ((-100000000000000000000 : ℤ) : ℚ) := by decide +kernel
  have wide : (Double.ofNat (2 ^ (128 : ℕ))).rational? = some ((2 ^ (128 : ℕ) : ℤ) : ℚ) := by
    decide +kernel
  have broken : Double.half.toInt? = none := by decide +kernel
  have sixteen := fun x => (textInBase_writes x 16).2 (by decide) (by decide) (by decide)
  have two := (textInBase_writes .half 2).2 (by decide) (by decide) (by decide)
  refine ⟨⟨value, (sixteen _).1 _ value (by decide)⟩, (sixteen _).2.1 _ wide (by decide),
    two.2.2 fun m => ?_, (textInBase_writes .half 37).1 (by decide)⟩
  simp [Double.rational?_eq_intCast_iff, broken]

end ClassLink
