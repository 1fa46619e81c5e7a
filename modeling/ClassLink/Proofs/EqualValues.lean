import ClassLink.Proofs.DecimalTexts
import ClassLink.Proofs.ValueDomains
import ClassLink.Proofs.Wrapping

/-!
# Conversions of equal values

One number is several values: it may be of either kind of 32-bit integers or a double, and zero as a
double has two signs. Strict equality does not tell these values apart, while each conversion treats
each kind of numbers in its own way. The conversions do not tell them apart either
(`conversions_respect_equality`).

A number is converted in the way the double that it is would be: to a text, a truth, a number and an
integer part. And doubles that are equal are the same but for the two zeros
(`Double.eq_or_zero_of_equal`), which are one whole number.
-/

namespace ClassLink

/- Powers of natural numbers are those of core, as in the definitions. -/
attribute [local instance (2000)] instPowNat

/- Both are powers of two too large to be written out. -/
attribute [local irreducible] Double.one Double.limit

/-! ### Equal doubles -/

namespace Double

variable {a b : Double}

/-- Two numbers at one place have one magnitude, and one sign if they are not zero. -/
theorem signed_inj {s t : Bool} {m n : ℕ} (h : signed s m = signed t n) :
    m = n ∧ (s = t ∨ m = 0) := by
  have magnitude : m = n := by
    rw [← natAbs_signed s m, h, natAbs_signed]
  subst magnitude
  refine ⟨rfl, ?_⟩
  cases s <;> cases t <;> simp only [signed, Bool.false_eq_true, if_true, if_false] at h
  · exact .inl rfl
  · exact .inr (by omega)
  · exact .inr (by omega)
  · exact .inl rfl

/-- Equal doubles are the same, or they are the two zeros. -/
theorem eq_or_zero_of_equal (h : a.equal b = true) :
    a = b ∨ a.toInt? = some 0 ∧ b.toInt? = some 0 := by
  obtain ⟨p, ha, hb⟩ := equal_iff.mp h
  have finite : a.isFinite = true ↔ b.isFinite = true := by
    rw [isFinite_iff_of_position ha, isFinite_iff_of_position hb]
  have place := ha.trans hb.symm
  cases a with
  | nan => cases ha
  | infinity s =>
    cases b with
    | nan => cases hb
    | infinity t =>
      obtain ⟨-, rfl | zero⟩ := signed_inj (Option.some.inj place)
      · exact .inl rfl
      · exact absurd zero fits_zero.2.ne'
    | finite => simp [isFinite] at finite
  | finite s u fu =>
    cases b with
    | nan => cases hb
    | infinity => simp [isFinite] at finite
    | finite t v fv =>
      obtain ⟨rfl, rfl | rfl⟩ := signed_inj (Option.some.inj place)
      · exact .inl rfl
      · exact .inr ⟨toInt?_finite_zero s, toInt?_finite_zero t⟩

/-- Equal doubles are printed alike: a whole number is printed without the sign of a zero. -/
theorem display_congr (h : a.equal b = true) : a.display = b.display := by
  obtain rfl | ⟨ha, hb⟩ := eq_or_zero_of_equal h
  · rfl
  · have small : (0 : ℤ).natAbs < wholeLimit := by decide
    rw [display_of_toInt? ha small, display_of_toInt? hb small]

/-- Equal doubles have one integer part. -/
theorem truncated_congr (h : a.equal b = true) : a.truncated = b.truncated := by
  obtain rfl | ⟨ha, hb⟩ := eq_or_zero_of_equal h
  · rfl
  · rw [truncated_of_toInt? ha, truncated_of_toInt? hb]

theorem ne_nan_of_toInt? {n : ℤ} (h : a.toInt? = some n) : a ≠ nan := by
  rintro rfl
  cases h

/-- A double is false as a truth if it is NaN or a zero. -/
theorem toBoolean_eq_false_iff :
    (Value.number a).toBoolean = false ↔ a = nan ∨ a.toInt? = some 0 := by
  have zeros : a.equal zero = true ↔ a.toInt? = some 0 := by
    constructor
    · intro h
      rw [toInt?_congr h, toInt?_zero]
    · intro h
      exact equal_iff.mpr ⟨_, position_of_toInt? h, position_of_toInt? toInt?_zero⟩
  cases a with
  | nan => simp [Value.toBoolean, isNaN]
  | infinity | finite => simp [Value.toBoolean, isNaN, zeros]

theorem toBoolean_congr (h : a.equal b = true) :
    (Value.number a).toBoolean = (Value.number b).toBoolean := by
  have numbers : a ≠ nan ∧ b ≠ nan := by
    obtain ⟨p, ha, hb⟩ := equal_iff.mp h
    constructor <;> rintro rfl
    · cases ha
    · cases hb
  rw [Bool.eq_iff_iff, ← not_iff_not, Bool.not_eq_true, Bool.not_eq_true, toBoolean_eq_false_iff,
    toBoolean_eq_false_iff, toInt?_congr h]
  simp [numbers]

end Double

/-! ### A number is converted like the double that it is -/

namespace Value

variable {v : Value} {d : Double}

theorem toNumber_of_numeric (h : v.numeric? = some d) : v.toNumber = d := by
  cases v <;> first | exact Option.some.inj h | cases h

/-- A number is a double, or an integer of 32 bits and the double that is the same whole number. -/
theorem double_or_integer (h : v.numeric? = some d) : v = .number d ∨ ∃ n : ℤ,
    d.toInt? = some n ∧ n.natAbs ≤ 2 ^ 53 ∧ v.wholePart = n ∧ v.toText = Numeral.decimal n ∧
      (v.toBoolean = false ↔ n = 0) := by
  cases v with
  | int i =>
    obtain rfl := Option.some.inj h
    refine .inr ⟨i.toInt, toInt?_ofInt i, natAbs_toInt_le i, rfl, rfl, ?_⟩
    rw [← Int32.toInt_zero, Int32.toInt_inj]
    simp [toBoolean]
  | uint u =>
    obtain rfl := Option.some.inj h
    refine .inr ⟨u.toNat, toInt?_ofNat u, toNat_le u, rfl, rfl, ?_⟩
    rw [Int.natCast_eq_zero, ← UInt32.toNat_zero, UInt32.toNat_inj]
    simp [toBoolean]
  | number x => exact .inl (congrArg number (Option.some.inj h))
  | _ => cases h

theorem wholePart_of_numeric (h : v.numeric? = some d) : v.wholePart = d.truncated.getD 0 := by
  obtain rfl | ⟨n, whole, -, part, -⟩ := double_or_integer h
  · rfl
  · rw [part, Double.truncated_of_toInt? whole, Option.getD_some]

/-- An integer is printed like the double: the digits of a double are written out up to 64 bits. -/
theorem toText_of_numeric (h : v.numeric? = some d) : v.toText = d.display := by
  obtain rfl | ⟨n, whole, small, -, text, -⟩ := double_or_integer h
  · rfl
  · have below : n.natAbs < Double.wholeLimit := lt_of_le_of_lt small (by decide)
    rw [text, Double.display_of_toInt? whole below, saturated_of_within (by omega) (by omega)]

theorem toBoolean_of_numeric (h : v.numeric? = some d) : v.toBoolean = (number d).toBoolean := by
  obtain rfl | ⟨n, whole, -, -, -, truth⟩ := double_or_integer h
  · rfl
  · have number := Double.ne_nan_of_toInt? whole
    rw [Bool.eq_iff_iff, ← not_iff_not, Bool.not_eq_true, Bool.not_eq_true, truth,
      Double.toBoolean_eq_false_iff, whole]
    simp [number]

end Value

/-! ### Equal values -/

section
variable {a b : Value} {x y : Double}

/-- A number is not a missing value. -/
theorem Value.isNullish_of_numeric (h : a.numeric? = some x) : a.isNullish = false := by
  cases a <;> first | rfl | cases h

/-- No coercion refuses a number, and from equal numbers it makes equal values. -/
theorem Coercion.apply_of_numeric (ha : a.numeric? = some x) (hb : b.numeric? = some y)
    (same : x.equal y = true) (c : Coercion) :
    ∃ v w, c.apply a = .ok v ∧ c.apply b = .ok w ∧ v.equal w = true := by
  have equal : a.equal b = true := by
    obtain ⟨p, hx, hy⟩ := Double.equal_iff.mp same
    exact Value.equal_of_position ha hb hx hy
  have whole : a.wholePart = b.wholePart := by
    rw [Value.wholePart_of_numeric ha, Value.wholePart_of_numeric hb, Double.truncated_congr same]
  cases c with
  | any | «instance» => exact ⟨a, b, rfl, rfl, equal⟩
  | object =>
    refine ⟨a, b, ?_, ?_, equal⟩
    · cases a <;> first | rfl | cases ha
    · cases b <;> first | rfl | cases hb
  | int =>
    refine ⟨_, _, rfl, rfl, ?_⟩
    rw [a.toInt32_eq, b.toInt32_eq, whole]
    exact Value.equal_self (by simp)
  | uint =>
    refine ⟨_, _, rfl, rfl, ?_⟩
    rw [a.toUInt32_eq, b.toUInt32_eq, whole]
    exact Value.equal_self (by simp)
  | number =>
    obtain ⟨p, hx, hy⟩ := Double.equal_iff.mp same
    refine ⟨_, _, rfl, rfl, ?_⟩
    rw [Value.toNumber_of_numeric ha, Value.toNumber_of_numeric hb]
    exact Value.equal_of_position rfl rfl hx hy
  | boolean =>
    refine ⟨_, _, rfl, rfl, ?_⟩
    rw [Value.toBoolean_of_numeric ha, Value.toBoolean_of_numeric hb, Double.toBoolean_congr same]
    exact Value.equal_self (by simp)
  | string =>
    refine ⟨.string a.toText, .string b.toText, ?_, ?_, ?_⟩
    · simp [Coercion.apply, Value.isNullish_of_numeric ha]
    · simp [Coercion.apply, Value.isNullish_of_numeric hb]
    · rw [Value.toText_of_numeric ha, Value.toText_of_numeric hb, Double.display_congr same]
      exact Value.equal_self (by simp)

/-- **Conversions respect equality.** Values that are equal, of whichever kinds of numbers they may
be, are printed alike and are alike as truths; and a coercion refuses both for the same reason, or
gives equal values for them, or NaN for both. The last happens where both are one value that is no
number, such as a text. -/
theorem conversions_respect_equality (h : a.equal b = true) :
    a.toText = b.toText ∧ a.toBoolean = b.toBoolean ∧ ∀ c : Coercion,
      (∃ e, c.apply a = .error e ∧ c.apply b = .error e) ∨
      ∃ v w, c.apply a = .ok v ∧ c.apply b = .ok w ∧
        (v.equal w = true ∨ v = .number .nan ∧ w = .number .nan) := by
  obtain rfl | ⟨x, y, ha, hb, same⟩ := Value.eq_or_numeric_of_equal h
  · refine ⟨rfl, rfl, fun c => ?_⟩
    cases outcome : c.apply a with
    | error e => exact .inl ⟨e, rfl, rfl⟩
    | ok v =>
      refine .inr ⟨v, v, rfl, rfl, ?_⟩
      by_cases number : v = .number .nan
      · exact .inr ⟨number, number⟩
      · exact .inl (Value.equal_self number)
  · refine ⟨?_, ?_, fun c => ?_⟩
    · rw [Value.toText_of_numeric ha, Value.toText_of_numeric hb, Double.display_congr same]
    · rw [Value.toBoolean_of_numeric ha, Value.toBoolean_of_numeric hb, Double.toBoolean_congr same]
    · obtain ⟨v, w, hv, hw, equal⟩ := Coercion.apply_of_numeric ha hb same c
      exact .inr ⟨v, w, hv, hw, .inl equal⟩

end

/-- The integer 0 and negative zero are printed alike, and stay equal as numbers. -/
theorem conversions_respect_zero :
    (Value.int 0).equal (.number (.finite true 0 Double.fits_zero)) = true ∧
    (Value.int 0).toText = (Value.number (.finite true 0 Double.fits_zero)).toText ∧
    ((∃ e, Coercion.number.apply (.int 0) = .error e ∧
        Coercion.number.apply (.number (.finite true 0 Double.fits_zero)) = .error e) ∨
      ∃ v w, Coercion.number.apply (.int 0) = .ok v ∧
        Coercion.number.apply (.number (.finite true 0 Double.fits_zero)) = .ok w ∧
        (v.equal w = true ∨ v = .number .nan ∧ w = .number .nan)) := by
  have equal : (Value.int 0).equal (.number (.finite true 0 Double.fits_zero)) = true := by
    decide +kernel
  have alike := conversions_respect_equality equal
  exact ⟨equal, alike.1, alike.2.2 .number⟩

end ClassLink
