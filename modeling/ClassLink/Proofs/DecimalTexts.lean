import ClassLink.Coercion
import ClassLink.Proofs.Numerals
import ClassLink.Proofs.Rounding
import ClassLink.Proofs.WholeArithmetic
import Mathlib.Data.List.TakeWhile

/-!
# Whole numbers as decimal texts

The decimal numeral of an integer passes through the reader of numbers unharmed: nothing is trimmed
off it, it is none of the texts that are read by other rules, and what its digits denote is rounded
once (`textToNumber_of_writesInt`).

So a whole number that is printed digit by digit is read back as itself. But what is printed below
10²¹ goes through 64 bits and is held between their bounds, so it is read back exactly if the number
lies between them, or is the one just above them, to which the upper bound is rounded
(`display_reads_back`).
-/

namespace ClassLink

/- Powers of natural numbers are those of core, as in the definitions. -/
attribute [local instance (2000)] instPowNat

/- Both are powers of two too large to be written out. -/
attribute [local irreducible] Double.one Double.limit

namespace Numeral

/-! ### Figures -/

/-- In base ten only the figures stand for digits. -/
theorem figure_of_stands {c : Char} {d : ℕ} (h : Stands 10 c d) :
    isFigure c = true ∧ c.toNat - 48 = d := by
  obtain ⟨value, below⟩ := (stands_iff (by decide)).mp h
  unfold digitValue? at value
  simp only [le_toNat_iff, Char.reduceToNat] at value
  simp only [isFigure, le_toNat_iff, Char.reduceToNat, decide_eq_true_eq]
  split at value
  · exact ⟨‹_›, Option.some.inj value⟩
  split at value
  · have same := Option.some.inj value
    omega
  split at value
  · have same := Option.some.inj value
    omega
  · cases value

variable {cs : List Char} {n : ℕ}

theorem Denotes.isFigure (h : Denotes 10 cs n) : ∀ c ∈ cs, isFigure c = true := by
  obtain ⟨ds, digits, -⟩ := h.digits
  intro c mem
  obtain ⟨i, bound, rfl⟩ := List.mem_iff_getElem.mp mem
  obtain ⟨length, stands⟩ := List.forall₂_iff_get.mp digits
  exact (figure_of_stands (stands i bound (length ▸ bound))).1

theorem foldl_figures {ds : List ℕ} (h : List.Forall₂ (Stands 10) cs ds) (m : ℕ) :
    cs.foldl (fun n c => n * 10 + (c.toNat - 48)) m = ds.foldl (fun n d => n * 10 + d) m := by
  induction h generalizing m with
  | nil => rfl
  | cons stands _ ih =>
    rw [List.foldl_cons, List.foldl_cons, (figure_of_stands stands).2]
    exact ih _

theorem Denotes.ofFigures (h : Denotes 10 cs n) : ofFigures cs = n := by
  obtain ⟨ds, digits, value⟩ := h.digits
  rw [Numeral.ofFigures, foldl_figures digits, foldl_eq_ofDigits, value]

/-! ### Reading figures -/

/-- A number of up to 400 digits is rounded once. -/
theorem scaled_of_short (negative : Bool) (short : (digits 10 n).length ≤ 400) :
    scaled negative n 0 = .ofRatio negative n 1 := by
  unfold scaled
  dsimp only
  by_cases zero : n = 0
  · rw [if_pos (.inl zero), zero, Double.ofUnits, Double.ofRatio, Nat.zero_mul]
  · rw [if_neg (by omega), if_neg (by omega), if_neg (by omega)]
    simp

/-- A sign is read as one, and figures do not begin with one. -/
theorem sign_figures (h : Denotes 10 cs n) (negative : Bool) :
    sign (if negative then '-' :: cs else cs) = (negative, cs) := by
  cases negative with
  | true => rfl
  | false =>
    have figure := h.isFigure
    change sign cs = _
    unfold sign
    split
    · exact absurd (figure '-' List.mem_cons_self) (by decide)
    · exact absurd (figure '+' List.mem_cons_self) (by decide)
    · rfl

theorem toDouble?_figures (h : Denotes 10 cs n) (short : (digits 10 n).length ≤ 400)
    (negative : Bool) : toDouble? (if negative then '-' :: cs else cs) =
      some (.ofRatio negative n 1) := by
  have whole : cs.takeWhile isFigure = cs := List.takeWhile_eq_self_iff.mpr h.isFigure
  have rest : cs.dropWhile isFigure = [] := List.dropWhile_eq_nil_iff.mpr h.isFigure
  unfold toDouble?
  simp [sign_figures h, whole, rest, h.nonempty, exponent?, h.ofFigures, scaled_of_short _ short]

/-! ### The characters of a numeral -/

variable {z : ℤ}

/-- Nothing but figures and a minus sign. -/
theorem WritesInt.characters (h : WritesInt 10 cs z) : ∀ c ∈ cs, c = '-' ∨ isFigure c = true := by
  obtain ⟨figures, writes, rfl⟩ := h
  intro c mem
  split_ifs at mem
  · rcases List.mem_cons.mp mem with rfl | mem
    · exact .inl rfl
    · exact .inr (writes.toDenotes.isFigure c mem)
  · exact .inr (writes.toDenotes.isFigure c mem)

theorem WritesInt.nonempty (h : WritesInt 10 cs z) : cs ≠ [] := by
  obtain ⟨figures, writes, rfl⟩ := h
  split_ifs
  · exact List.cons_ne_nil _ _
  · exact writes.nonempty

/-- A numeral is no text with another character in it. -/
theorem WritesInt.ne_of_mem (h : WritesInt 10 cs z) {c : Char} {other : List Char} (mem : c ∈ other)
    (sign : c ≠ '-') (figure : isFigure c = false) : cs ≠ other := by
  rintro rfl
  rcases h.characters c mem with rfl | isFigure
  · exact sign rfl
  · exact Bool.false_ne_true (figure.symm.trans isFigure)

theorem not_isForeignLetter_of_isFigure {c : Char} (h : isFigure c = true) :
    isForeignLetter c = false := by
  simp only [isFigure, le_toNat_iff, Char.reduceToNat, decide_eq_true_eq] at h
  have letter : ¬ c.isAlpha = true := by
    intro alpha
    -- a letter of either case lies beyond the figures
    rcases Bool.or_eq_true_iff.mp alpha with upper | lower
    · have le : 65 ≤ c.toNat := UInt32.le_iff_toNat_le.mp (of_decide_eq_true upper).1
      omega
    · have le : 97 ≤ c.toNat :=
        UInt32.le_iff_toNat_le.mp (of_decide_eq_true (Bool.and_eq_true_iff.mp lower).1)
      omega
  simp [isForeignLetter, letter]

theorem not_isBlank_of_isFigure {c : Char} (h : isFigure c = true) : Text.isBlank c = false := by
  simp only [isFigure, le_toNat_iff, Char.reduceToNat, decide_eq_true_eq] at h
  simp [Text.isBlank]
  omega

end Numeral

/-! ### Reading a numeral -/

/-- A text that is the numeral of an integer, blanks around it apart, is read as the double nearest
to the integer. -/
theorem textToNumber_of_writesInt {s : String} {z : ℤ}
    (writes : Numeral.WritesInt 10 (Text.trim s.toList) z)
    (short : (Numeral.digits 10 z.natAbs).length ≤ 400) : textToNumber s = .ofInt z := by
  unfold textToNumber
  dsimp only
  generalize Text.trim s.toList = cs at writes
  have infinity : cs ≠ "Infinity".toList :=
    writes.ne_of_mem (c := 'I') (by decide) (by decide) (by decide)
  have positive : cs ≠ "+Infinity".toList :=
    writes.ne_of_mem (c := 'I') (by decide) (by decide) (by decide)
  have negative : cs ≠ "-Infinity".toList :=
    writes.ne_of_mem (c := 'I') (by decide) (by decide) (by decide)
  have own : cs.any isForeignLetter = false := by
    rw [List.any_eq_false]
    intro c mem
    rcases writes.characters c mem with rfl | figure
    · decide
    · simp [Numeral.not_isForeignLetter_of_isFigure figure]
  rw [if_neg (by simpa using writes.nonempty), if_neg (by simp only [infinity, positive]; simp),
    if_neg negative]
  split
  · exact absurd rfl (writes.ne_of_mem (c := 'x') (by simp) (by decide) (by decide))
  · exact absurd rfl (writes.ne_of_mem (c := 'X') (by simp) (by decide) (by decide))
  · obtain ⟨figures, denotes, rfl⟩ := writes
    have read := Numeral.toDouble?_figures denotes.toDenotes short (decide (z < 0))
    simp only [decide_eq_true_eq] at read
    rw [own, if_neg Bool.false_ne_true, read, Option.getD_some, Double.ofInt]

/-- Nothing is trimmed off a numeral. -/
theorem Numeral.WritesInt.trim {cs : List Char} {z : ℤ} (h : WritesInt 10 cs z) :
    Text.trim cs = cs := by
  have solid : ∀ c ∈ cs, ¬ Text.isBlank c = true := by
    intro c mem
    rcases h.characters c mem with rfl | figure
    · decide
    · simp [not_isBlank_of_isFigure figure]
  have keeps : ∀ {l : List Char}, (∀ c ∈ l, ¬ Text.isBlank c = true) →
      l.dropWhile Text.isBlank = l := by
    intro l solid
    rw [List.dropWhile_eq_self_iff]
    exact fun given => solid _ (List.getElem_mem given)
  rw [Text.trim, keeps solid, keeps fun c mem => solid c (List.mem_reverse.mp mem),
    List.reverse_reverse]

/-! ### Printing and reading back -/

/-- The integer of 64 bits nearest to an integer. -/
def saturated (n : ℤ) : ℤ := max (-9223372036854775808) (min n 9223372036854775807)

section
variable {n : ℤ}

theorem saturated_of_within (low : -9223372036854775808 ≤ n) (high : n ≤ 9223372036854775807) :
    saturated n = n := by
  unfold saturated
  omega

theorem saturated_of_le (h : n ≤ -9223372036854775808) : saturated n = -9223372036854775808 := by
  unfold saturated
  omega

theorem saturated_of_ge (h : 9223372036854775807 ≤ n) : saturated n = 9223372036854775807 := by
  unfold saturated
  omega

theorem saturated_lt_zero_iff (n : ℤ) : saturated n < 0 ↔ n < 0 := by
  unfold saturated
  omega

theorem natAbs_saturated_le (n : ℤ) : (saturated n).natAbs ≤ 9223372036854775808 := by
  unfold saturated
  omega

end

namespace Double

variable {x : Double} {n : ℤ}

/-- A whole number below 10²¹ is printed as an integer of 64 bits. -/
theorem display_of_toInt? (h : x.toInt? = some n) (small : n.natAbs < wholeLimit) :
    x.display = Numeral.decimal (saturated n) := by
  obtain ⟨negative, fits, rfl, same⟩ := exists_of_toInt? h
  have held : (if n < wholeMin then wholeMin else if wholeMax < n then wholeMax else n) =
      saturated n := by
    unfold saturated wholeMin wholeMax
    omega
  rw [display, h]
  dsimp only
  rw [if_pos small, held]

theorem toList_display (h : x.toInt? = some n) (small : n.natAbs < wholeLimit) :
    Numeral.WritesInt 10 x.display.toList (saturated n) := by
  rw [display_of_toInt? h small, Numeral.decimal, String.toList_ofList]
  exact Numeral.writesInt_ofInt (by decide) (by decide) _

/-- What is printed is read as the double nearest to the integer that was written. -/
theorem textToNumber_display (h : x.toInt? = some n) (small : n.natAbs < wholeLimit) :
    textToNumber x.display = .ofInt (saturated n) := by
  have writes := toList_display h small
  refine textToNumber_of_writesInt (writes.trim.symm ▸ writes) ?_
  have bound : (saturated n).natAbs < 10 ^ 20 :=
    lt_of_le_of_lt (natAbs_saturated_le n) (by decide)
  rw [Numeral.digits_eq (by decide)]
  split_ifs
  · decide
  · rw [List.length_reverse]
    exact le_trans ((Nat.digits_length_le_iff (by decide) _).mpr bound) (by decide)

/-- The bounds of 64 bits, rounded to doubles. -/
theorem toInt?_ofInt_wholeMax : (ofInt 9223372036854775807).toInt? = some 9223372036854775808 := by
  decide +kernel

theorem toInt?_ofInt_wholeMin :
    (ofInt (-9223372036854775808)).toInt? = some (-9223372036854775808) := by
  decide +kernel

/-- The nearest integer of 64 bits is converted back to a double exactly if that lies between the
bounds, or is the upper one rounded up. -/
theorem toInt?_ofInt_saturated_iff (h : x.toInt? = some n) :
    (ofInt (saturated n)).toInt? = some n ↔ n.natAbs ≤ 9223372036854775808 := by
  rcases lt_trichotomy n 9223372036854775808 with below | rfl | above
  · by_cases within : -9223372036854775808 ≤ n
    · rw [saturated_of_within within (by omega), toInt?_ofInt_of_toInt? h]
      exact iff_of_true rfl (by omega)
    · rw [saturated_of_le (by omega), toInt?_ofInt_wholeMin, Option.some.injEq]
      omega
  · exact iff_of_true toInt?_ofInt_wholeMax (by decide)
  · rw [saturated_of_ge (by omega), toInt?_ofInt_wholeMax, Option.some.injEq]
    omega

/-- A double is the nearest one to the integer of 64 bits that is nearest to it exactly if this is
converted back to it. -/
theorem isNearest_saturated_iff (h : x.toInt? = some n) :
    x.IsNearest (saturated n) ↔ n.natAbs ≤ 9223372036854775808 := by
  have value := rational?_eq_intCast_iff.mpr h
  constructor
  · intro nearest
    by_contra large
    -- the double next to the bound lies between it and the number
    have between : ∃ (y : Double) (r : ℤ), y.toInt? = some r ∧ r ≠ n ∧
        |r - saturated n| < |n - saturated n| := by
      rcases Int.lt_or_gt_of_ne (show n ≠ 0 by omega) with negative | positive
      · refine ⟨_, _, toInt?_ofInt_wholeMin, by omega, ?_⟩
        rw [saturated_of_le (by omega), sub_self, abs_zero]
        exact abs_pos.mpr (by omega)
      · refine ⟨_, _, toInt?_ofInt_wholeMax, by omega, ?_⟩
        rw [saturated_of_ge (by omega), abs_of_nonneg (by omega), abs_of_nonneg (by omega)]
        omega
    obtain ⟨y, r, whole, different, nearer⟩ := between
    have other := nearest.nearest n r y value (rational?_eq_intCast_iff.mpr whole)
      (by exact_mod_cast different)
    have order : |(r : ℚ) - saturated n| < |(n : ℚ) - saturated n| := by exact_mod_cast nearer
    rcases other with further | ⟨tie, -⟩
    · exact lt_asymm order further
    · exact order.ne' tie
  · intro within
    have back := (toInt?_ofInt_saturated_iff h).mpr within
    have small : (saturated n).natAbs < 2 ^ 64 :=
      lt_of_le_of_lt (natAbs_saturated_le n) (by decide)
    have nearest : (ofInt (saturated n)).IsNearest (saturated n) :=
      isNearest_ofInt small (by decide)
    by_cases zero : n = 0
    · rw [zero] at value ⊢
      exact isNearest_self value
    · rwa [eq_of_toInt? h back zero]

end Double

/-- **A whole number is printed so that it is read back, up to 2⁶³.** Below 10²¹ the text is the
decimal numeral of an integer, with a minus sign exactly if the number is negative. The number is
the double nearest to that integer, and the text is read back as the number, exactly if its
magnitude is at most 2⁶³; beyond, what is written is the bound of 64 bits. -/
theorem display_reads_back {x : Double} {n : ℤ} (whole : x.rational? = some (n : ℚ))
    (small : n.natAbs < 10 ^ (21 : ℕ)) :
    Numeral.WritesInt 10 x.display.toList (saturated n) ∧ (saturated n < 0 ↔ n < 0) ∧
      (x.IsNearest (saturated n) ↔ n.natAbs ≤ 9223372036854775808) ∧
      ((Value.string x.display).toNumber.rational? = some (n : ℚ) ↔
        n.natAbs ≤ 9223372036854775808) := by
  have h := Double.rational?_eq_intCast_iff.mp whole
  refine ⟨Double.toList_display h small, saturated_lt_zero_iff n, Double.isNearest_saturated_iff h,
    ?_⟩
  rw [Double.rational?_eq_intCast_iff, ← Double.toInt?_ofInt_saturated_iff h,
    ← Double.textToNumber_display h small]
  rfl

/-- The greatest double below 2⁶³ is read back. -/
theorem display_reads_back_below :
    ((Double.ofInt 9223372036854774784).rational? = some ((9223372036854774784 : ℤ) : ℚ) ∧
      (9223372036854774784 : ℤ).natAbs < 10 ^ (21 : ℕ)) ∧
    (Value.string (Double.ofInt 9223372036854774784).display).toNumber.rational? =
      some ((9223372036854774784 : ℤ) : ℚ) := by
  have whole : (Double.ofInt 9223372036854774784).rational? =
      some ((9223372036854774784 : ℤ) : ℚ) := by decide +kernel
  have small : (9223372036854774784 : ℤ).natAbs < 10 ^ (21 : ℕ) := by decide
  exact ⟨⟨whole, small⟩, (display_reads_back whole small).2.2.2.mpr (by decide)⟩

/-- The number 10²⁰ is printed as the upper bound of 64 bits, which is read as another number. -/
theorem display_not_read_back :
    (Double.ofInt 100000000000000000000).rational? = some ((100000000000000000000 : ℤ) : ℚ) ∧
    (100000000000000000000 : ℤ).natAbs < 10 ^ (21 : ℕ) ∧
    (Double.ofInt 100000000000000000000).display = "9223372036854775807" ∧
    (Value.string (Double.ofInt 100000000000000000000).display).toNumber.rational? ≠
      some ((100000000000000000000 : ℤ) : ℚ) := by
  decide +kernel

end ClassLink
