import ClassLink.Coercion
import ClassLink.Proofs.Numerals
import ClassLink.Proofs.Rounding

/-!
# Hexadecimal texts

A text that begins with a hexadecimal mark, blanks before it apart, is read by what follows the
mark: a run of hexadecimal digits, of any length and in letters of either case, is the number that
it denotes, rounded once to the nearest double. The reader's own grammar differs from that of the
digits in two places: it lets one plus sign stand before the digits, and it gives up on numbers
beyond 64 bits. Both are part of what is stated here (`hexadecimal_reads_iff`); apart from them it
accepts the digits and nothing else.
-/

namespace ClassLink

open Numeral

/- Powers of natural numbers are those of core, as in the definitions. -/
attribute [local instance (2000)] instPowNat

theorem hexLimit_eq : hexLimit = 2 ^ (64 : ℕ) := rfl

/-- What is read after a hexadecimal mark: digits, or a plus sign and digits. -/
def IsHexBody (cs : List Char) (n : ℕ) : Prop :=
  Denotes 16 cs n ∨ ∃ figures, cs = '+' :: figures ∧ Denotes 16 figures n

/-- A plus sign is no digit. -/
theorem not_denotes_plus (cs : List Char) (n : ℕ) : ¬ Denotes 16 ('+' :: cs) n := by
  rintro ⟨-, ds, digits, -⟩
  obtain ⟨d, -, stands, -⟩ := List.forall₂_cons_left_iff.mp digits
  have value : digitValue? '+' = some d := ((stands_iff (by decide)).mp stands).1
  rw [show digitValue? '+' = none by decide] at value
  cases value

/-- The number after the mark, by the digits that are left without the sign. -/
theorem hexNumber_eq (cs : List Char) : ∃ figures, (∀ n, IsHexBody cs n ↔ Denotes 16 figures n) ∧
    hexNumber cs = match figures, toNat? 16 figures with
      | _ :: _, some n => if n < hexLimit then .ofNat n else .nan
      | _, _ => .nan := by
  by_cases signed : ∃ figures, cs = '+' :: figures
  · obtain ⟨figures, rfl⟩ := signed
    refine ⟨figures, fun n => ?_, rfl⟩
    simp [IsHexBody, not_denotes_plus]
  · have bare : ∀ figures, cs ≠ '+' :: figures := not_exists.mp signed
    refine ⟨cs, fun n => ?_, ?_⟩
    · simp [IsHexBody, bare]
    · unfold hexNumber
      extract_lets figures
      have same : figures = cs := by
        unfold figures
        split
        · exact absurd rfl (bare _)
        · rfl
      clear_value figures
      subst same
      rfl

variable {cs : List Char} {n : ℕ}

theorem hexNumber_of_body (h : IsHexBody cs n) :
    hexNumber cs = if n < hexLimit then .ofNat n else .nan := by
  obtain ⟨figures, body, same⟩ := hexNumber_eq cs
  have denotes := (body n).mp h
  rw [same, (toNat?_eq_some_iff (by decide) denotes.nonempty).mpr denotes]
  cases figures with
  | nil => exact absurd rfl denotes.nonempty
  | cons c r => rfl

theorem body_of_hexNumber_ne_nan (h : hexNumber cs ≠ .nan) : ∃ n, IsHexBody cs n := by
  obtain ⟨figures, body, same⟩ := hexNumber_eq cs
  rw [same] at h
  split at h
  · rename_i c r n read
    exact ⟨n, (body n).mpr ((toNat?_eq_some_iff (by decide) (List.cons_ne_nil c r)).mp read)⟩
  · exact absurd rfl h

/-- A text with a hexadecimal mark is read by what follows the mark. -/
theorem textToNumber_of_mark {s : String} {mark : Char} {r : List Char}
    (h : Text.trim s.toList = '0' :: mark :: r) (hex : mark = 'x' ∨ mark = 'X') :
    textToNumber s = hexNumber r := by
  have apart : ∀ {c : Char} {l : List Char}, c ≠ '0' → '0' :: mark :: r ≠ c :: l := by
    intro c l other same
    exact other (List.cons.inj same).1.symm
  have infinity : '0' :: mark :: r ≠ "Infinity".toList := apart (c := 'I') (by decide)
  have positive : '0' :: mark :: r ≠ "+Infinity".toList := apart (c := '+') (by decide)
  have negative : '0' :: mark :: r ≠ "-Infinity".toList := apart (c := '-') (by decide)
  unfold textToNumber
  dsimp only
  rw [h, if_neg (by simp), if_neg (not_or.mpr ⟨infinity, positive⟩), if_neg negative]
  rcases hex with rfl | rfl <;> rfl

/-- **Hexadecimal texts.** What follows the mark is read as a number exactly if it is a run of
hexadecimal digits, with at most a plus sign before it, that denotes a number below 2⁶⁴; and the
number is then the double nearest to the one that the digits denote. -/
theorem hexadecimal_reads_iff {s : String} {mark : Char} {r : List Char}
    (marked : Text.trim s.toList = '0' :: mark :: r) (hex : mark = 'x' ∨ mark = 'X') :
    ((Value.string s).toNumber ≠ .nan ↔
      ∃ n < 2 ^ (64 : ℕ), Denotes 16 r n ∨ ∃ figures, r = '+' :: figures ∧ Denotes 16 figures n) ∧
    ∀ n < 2 ^ (64 : ℕ), (Denotes 16 r n ∨ ∃ figures, r = '+' :: figures ∧ Denotes 16 figures n) →
      (Value.string s).toNumber.IsNearest n := by
  have read : (Value.string s).toNumber = hexNumber r := textToNumber_of_mark marked hex
  have rounded : ∀ n < 2 ^ (64 : ℕ), IsHexBody r n → (hexNumber r).IsNearest n := by
    intro n small body
    rw [hexNumber_of_body body, if_pos (hexLimit_eq ▸ small)]
    have nearest := Double.isNearest_ofInt (n := n) (k := 64) small (by decide)
    exact_mod_cast nearest
  rw [read]
  refine ⟨⟨fun number => ?_, fun ⟨n, small, body⟩ => ?_⟩, rounded⟩
  · obtain ⟨n, body⟩ := body_of_hexNumber_ne_nan number
    refine ⟨n, ?_, body⟩
    by_contra large
    rw [hexNumber_of_body body, if_neg (hexLimit_eq ▸ large)] at number
    exact number rfl
  · intro nan
    have finite := (rounded n small body).isFinite
    rw [nan] at finite
    cases finite

/-- Capital letters, and more digits than a double has. -/
theorem hexadecimal_reads_iff_capital :
    (Text.trim " 0XFFFFFFFFFFFFFFFF".toList = '0' :: 'X' :: "FFFFFFFFFFFFFFFF".toList ∧
      Denotes 16 "FFFFFFFFFFFFFFFF".toList 18446744073709551615) ∧
    (Value.string " 0XFFFFFFFFFFFFFFFF").toNumber.IsNearest (18446744073709551615 : ℕ) := by
  have marked : Text.trim " 0XFFFFFFFFFFFFFFFF".toList =
      '0' :: 'X' :: "FFFFFFFFFFFFFFFF".toList := by decide +kernel
  have denotes : Denotes 16 "FFFFFFFFFFFFFFFF".toList 18446744073709551615 :=
    (toNat?_eq_some_iff (by decide) (by decide)).mp (by decide +kernel)
  exact ⟨⟨marked, denotes⟩,
    (hexadecimal_reads_iff marked (.inr rfl)).2 _ (by decide) (.inl denotes)⟩

/-- A plus sign is read although it is no digit, and digits that denote 2⁶⁴ are not read. -/
theorem hexadecimal_signed_and_wide :
    (Text.trim "0x+10".toList = '0' :: 'x' :: "+10".toList ∧
      (∀ n, ¬ Denotes 16 "+10".toList n) ∧ (Value.string "0x+10").toNumber ≠ .nan) ∧
    Text.trim "0x10000000000000000".toList = '0' :: 'x' :: "10000000000000000".toList ∧
      Denotes 16 "10000000000000000".toList (2 ^ (64 : ℕ)) ∧
      (Value.string "0x10000000000000000").toNumber = .nan := by
  refine ⟨⟨by decide +kernel, fun n denotes => not_denotes_plus ['1', '0'] n denotes,
    by decide +kernel⟩, by decide +kernel, ?_, by decide +kernel⟩
  exact (toNat?_eq_some_iff (by decide) (by decide)).mp (by decide +kernel)

end ClassLink
