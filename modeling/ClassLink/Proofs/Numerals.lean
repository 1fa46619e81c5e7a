import ClassLink.Number.Numeral
import Mathlib.Data.Nat.Digits.Lemmas

/-!
# Numerals and their values

What a numeral is, said without the functions that write and read numerals. A character stands for
a digit by its place in an alphabet; a run of such characters denotes the number with these digits,
the highest first (`Denotes`); and one way to write a number is singled out: small letters, and no
zero before another digit (`Writes`).

Reading gives the number that a run of digits denotes, and fails on all other texts
(`toNat?_eq_some_iff`). Writing produces the one form that was singled out (`writes_ofNat`,
`writesInt_ofInt`).
-/

namespace ClassLink.Numeral

/- Powers of natural numbers are those of core, as in the definitions. -/
attribute [local instance (2000)] instPowNat

/-! ### Digits -/

/-- The digits below 36 in order, with small letters. -/
def smallDigits : List Char := "0123456789abcdefghijklmnopqrstuvwxyz".toList

/-- The digits below 36 in order, with capital letters. -/
def capitalDigits : List Char := "0123456789ABCDEFGHIJKLMNOPQRSTUVWXYZ".toList

/-- A character stands for a digit of a base. -/
def Stands (base : ℕ) (c : Char) (d : ℕ) : Prop :=
  d < base ∧ (smallDigits[d]? = some c ∨ capitalDigits[d]? = some c)

theorem smallDigits_eq : ∀ d < 36, smallDigits[d]? = some (digitChar d) := by
  decide

theorem capitalDigits_eq : ∀ d < 36, capitalDigits[d]? =
    some (if d < 10 then Char.ofNat (48 + d) else Char.ofNat (55 + d)) := by
  decide

theorem digitValue?_digitChar : ∀ d < 36, digitValue? (digitChar d) = some d := by
  decide

theorem digitValue?_capital : ∀ d < 36,
    digitValue? (if d < 10 then Char.ofNat (48 + d) else Char.ofNat (55 + d)) = some d := by
  decide

theorem le_toNat_iff {a b : Char} : a ≤ b ↔ a.toNat ≤ b.toNat :=
  Char.le_def.trans UInt32.le_iff_toNat_le

/-- The character of a code point that is known up to what is added to it. -/
theorem eq_ofNat_add {c : Char} {k : ℕ} (h : k ≤ c.toNat) : Char.ofNat (k + (c.toNat - k)) = c := by
  rw [Nat.add_sub_cancel' h, Char.ofNat_toNat]

section
variable {base : ℕ}

/-- Reading a digit finds its place in the alphabet. -/
theorem stands_iff (small : base ≤ 36) {c : Char} {d : ℕ} :
    Stands base c d ↔ digitValue? c = some d ∧ d < base := by
  constructor
  · rintro ⟨below, letter | letter⟩
    · rw [smallDigits_eq d (by omega)] at letter
      exact ⟨Option.some.inj letter ▸ digitValue?_digitChar d (by omega), below⟩
    · rw [capitalDigits_eq d (by omega)] at letter
      exact ⟨Option.some.inj letter ▸ digitValue?_capital d (by omega), below⟩
  · rintro ⟨value, below⟩
    refine ⟨below, ?_⟩
    rw [smallDigits_eq d (by omega), capitalDigits_eq d (by omega)]
    unfold digitValue? at value
    unfold digitChar
    simp only [le_toNat_iff, Char.reduceToNat] at value
    split at value
    · -- a figure
      obtain rfl := Option.some.inj value
      rw [if_pos (by omega), eq_ofNat_add (by omega)]
      exact .inl rfl
    split at value
    · -- a small letter
      obtain rfl := Option.some.inj value
      rw [if_neg (by omega), eq_ofNat_add (by omega)]
      exact .inl rfl
    split at value
    · -- a capital letter
      obtain rfl := Option.some.inj value
      rw [if_neg (by omega), if_neg (by omega), eq_ofNat_add (by omega)]
      exact .inr rfl
    · cases value

/-! ### What a run of digits denotes -/

/-- A run of digits, the highest first, denotes a number. -/
structure Denotes (base : ℕ) (cs : List Char) (n : ℕ) : Prop where
  nonempty : cs ≠ []
  digits : ∃ ds, List.Forall₂ (Stands base) cs ds ∧ Nat.ofDigits base ds.reverse = n

/-- A text is what is written for a number: of the runs that denote it the one with small letters
and without a zero before another digit. -/
structure Writes (base : ℕ) (cs : List Char) (n : ℕ) : Prop extends Denotes base cs n where
  small : ∀ c ∈ cs, c ∈ smallDigits
  leading : cs.head? = some '0' → cs = ['0']

/-- A text is what is written for an integer: a minus sign exactly before a negative one. -/
def WritesInt (base : ℕ) (cs : List Char) (z : ℤ) : Prop :=
  ∃ figures, Writes base figures z.natAbs ∧ cs = if z < 0 then '-' :: figures else figures

/-! ### Reading -/

theorem foldl_eq_ofDigits (base : ℕ) (ds : List ℕ) :
    ds.foldl (fun n d => n * base + d) 0 = Nat.ofDigits base ds.reverse := by
  rw [Nat.ofDigits_eq_foldr, List.foldr_reverse]
  congr
  funext n d
  rw [Nat.mul_comm, Nat.add_comm]
  rfl

/-- Reading on from `n`: every digit shifts what was read so far. -/
theorem foldlM_shift?_eq_some_iff (small : base ≤ 36) {cs : List Char} {m n : ℕ} :
    cs.foldlM (shift? base) m = some n ↔
      ∃ ds, List.Forall₂ (Stands base) cs ds ∧ ds.foldl (fun n d => n * base + d) m = n := by
  induction cs generalizing m with
  | nil => simp [eq_comm]
  | cons c r ih =>
    have step : ∀ k, shift? base m c = some k ↔ ∃ d, Stands base c d ∧ m * base + d = k := by
      intro k
      simp only [stands_iff small]
      unfold shift?
      cases value : digitValue? c with
      | none => simp
      | some d => by_cases below : d < base <;> simp [below]
    simp only [List.foldlM_cons, Option.bind_eq_bind, Option.bind_eq_some_iff, step, ih]
    constructor
    · rintro ⟨k, ⟨d, stands, rfl⟩, ds, rest, rfl⟩
      exact ⟨d :: ds, .cons stands rest, rfl⟩
    · rintro ⟨_, stands | ⟨stands, rest⟩, rfl⟩
      exact ⟨_, ⟨_, stands, rfl⟩, _, rest, rfl⟩

/-- **Reading gives what a run of digits denotes**, and nothing for any other text. -/
theorem toNat?_eq_some_iff (small : base ≤ 36) {cs : List Char} (given : cs ≠ []) {n : ℕ} :
    toNat? base cs = some n ↔ Denotes base cs n := by
  rw [toNat?, foldlM_shift?_eq_some_iff small]
  simp only [foldl_eq_ofDigits]
  exact ⟨fun h => ⟨given, h⟩, fun h => h.digits⟩

/-! ### Writing -/

/-- The digits are those of the number, with one for zero. -/
theorem digits_eq (h : 1 < base) (n : ℕ) :
    digits base n = if n = 0 then [0] else (Nat.digits base n).reverse := by
  induction n using Nat.strongRecOn with
  | ind n ih =>
    rw [digits]
    by_cases below : n < base
    · rw [if_pos (.inl below)]
      split_ifs with zero
      · rw [zero]
      · rw [Nat.digits_of_lt base n zero below, List.reverse_singleton]
    · have quotient : n / base ≠ 0 := (Nat.div_pos (by omega) (by omega)).ne'
      rw [if_neg (by omega), ih _ (Nat.div_lt_self (by omega) h), if_neg quotient,
        if_neg (show n ≠ 0 by omega), Nat.digits_def' h (n := n) (by omega), List.reverse_cons]

theorem ofDigits_digits (h : 1 < base) (n : ℕ) :
    Nat.ofDigits base (digits base n).reverse = n := by
  rw [digits_eq h]
  split_ifs with zero
  · rw [zero]
    rfl
  · rw [List.reverse_reverse, Nat.ofDigits_digits]

theorem lt_of_mem_digits (h : 1 < base) {n d : ℕ} (mem : d ∈ digits base n) : d < base := by
  rw [digits_eq h] at mem
  split_ifs at mem with zero
  · rw [List.mem_singleton.mp mem]
    omega
  · exact Nat.digits_lt_base h (List.mem_reverse.mp mem)

theorem digits_ne_nil (base n : ℕ) : digits base n ≠ [] := by
  rw [digits]
  split_ifs <;> simp

/-- Only zero begins with a zero. -/
theorem digits_of_head?_eq_zero (h : 1 < base) {n : ℕ} (head : (digits base n).head? = some 0) :
    digits base n = [0] := by
  rw [digits_eq h] at head ⊢
  split_ifs at head ⊢ with zero
  · rfl
  · have given : Nat.digits base n ≠ [] := Nat.digits_ne_nil_iff_ne_zero.mpr zero
    rw [List.head?_reverse, List.getLast?_eq_getLast_of_ne_nil given] at head
    exact absurd (Option.some.inj head) (Nat.getLast_digit_ne_zero base zero)

theorem digitChar_eq_zero {d : ℕ} (small : d < 36) (h : digitChar d = '0') : d = 0 := by
  have value := digitValue?_digitChar d small
  rw [h] at value
  exact (Option.some.inj value).symm

/-- **Writing produces the one form of a number.** -/
theorem writes_ofNat (two : 2 ≤ base) (small : base ≤ 36) (n : ℕ) :
    Writes base (ofNat base n) n where
  nonempty := by
    unfold ofNat
    simpa using digits_ne_nil base n
  digits := by
    refine ⟨digits base n, ?_, ofDigits_digits two n⟩
    rw [ofNat, List.forall₂_map_left_iff, List.forall₂_same]
    intro d mem
    have below := lt_of_mem_digits two mem
    exact ⟨below, .inl (smallDigits_eq d (by omega))⟩
  small := by
    intro c letter
    obtain ⟨d, mem, rfl⟩ := List.mem_map.mp letter
    have below := lt_of_mem_digits two mem
    exact List.mem_of_getElem? (smallDigits_eq d (by omega))
  leading := by
    intro head
    rw [ofNat, List.head?_map, Option.map_eq_some_iff] at head
    obtain ⟨d, first, letter⟩ := head
    have below := lt_of_mem_digits two (List.mem_of_mem_head? first)
    obtain rfl := digitChar_eq_zero (by omega) letter
    rw [ofNat, digits_of_head?_eq_zero two first]
    rfl

theorem writesInt_ofInt (two : 2 ≤ base) (small : base ≤ 36) (z : ℤ) :
    WritesInt base (ofInt base z) z :=
  ⟨_, writes_ofNat two small z.natAbs, rfl⟩

end

end ClassLink.Numeral
