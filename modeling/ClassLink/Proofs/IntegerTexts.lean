import ClassLink.Proofs.EqualValues

/-!
# Integers through texts

A 32-bit integer is written by its decimal digits, and a text is read in several steps: the blanks
around it are dropped, the words for the infinities and the hexadecimal mark are looked for, letters
are refused, the numeral becomes a double and the double is reduced modulo 2³². Nothing is lost on
the way (`integers_survive_text`): the text of an integer, with any blanks around it, is coerced to
that integer, or to the integer of the other kind with the same bits.

The reading sees no blanks around a text (`Text.textToNumber_between`), and a whole number that is
read from its own text has its own integer part, on which alone its 32-bit integers depend
(`Value.integers_between`).
-/

namespace ClassLink

/- Powers of natural numbers are those of core, as in the definitions. -/
attribute [local instance (2000)] instPowNat

/- Both are powers of two too large to be written out. -/
attribute [local irreducible] Double.one Double.limit

/-! ### Blanks around a text -/

namespace Text

/-- A text with characters before and after it. -/
def between (before after : List Char) (s : String) : String :=
  .ofList (before ++ s.toList ++ after)

@[simp] theorem toList_between (before after : List Char) (s : String) :
    (between before after s).toList = before ++ s.toList ++ after := by
  simp [between]

section
variable {before after : List Char}

/-- Blanks at both ends of a text are trimmed off together with its own. -/
theorem trim_append (hb : ∀ c ∈ before, isBlank c = true) (ha : ∀ c ∈ after, isBlank c = true)
    (cs : List Char) : trim (before ++ cs ++ after) = trim cs := by
  have behind : ∀ c ∈ after.reverse, isBlank c = true := by
    intro c mem
    exact ha c (List.mem_reverse.mp mem)
  unfold trim
  rw [List.append_assoc, List.dropWhile_append_of_pos hb, List.dropWhile_append]
  -- the blanks after a text of nothing but blanks are reached from the front
  split
  · rename_i blank
    rw [List.isEmpty_iff.mp blank, List.dropWhile_eq_nil_iff.mpr ha]
  · rw [List.reverse_append, List.dropWhile_append_of_pos behind]

/-- Blanks around a text do not change the number that it is read as. -/
theorem textToNumber_between (hb : ∀ c ∈ before, isBlank c = true)
    (ha : ∀ c ∈ after, isBlank c = true) (s : String) :
    textToNumber (between before after s) = textToNumber s := by
  unfold textToNumber
  rw [toList_between, trim_append hb ha]

end

end Text

/-! ### Reading a number back -/

section
variable {before after : List Char}

/-- A whole number of 64 bits, read from its own text with blanks around it, is turned into the same
32-bit integers as the number itself. -/
theorem Value.integers_between {v : Value} {d : Double} {n : ℤ} (number : v.numeric? = some d)
    (whole : d.toInt? = some n) (low : -9223372036854775808 ≤ n) (high : n ≤ 9223372036854775807)
    (hb : ∀ c ∈ before, Text.isBlank c = true) (ha : ∀ c ∈ after, Text.isBlank c = true) :
    (string (Text.between before after v.toText)).toInt32 = v.toInt32 ∧
      (string (Text.between before after v.toText)).toUInt32 = v.toUInt32 := by
  have small : n.natAbs < Double.wholeLimit := by
    unfold Double.wholeLimit
    omega
  have read : textToNumber (Text.between before after v.toText) = .ofInt n := by
    rw [Text.textToNumber_between hb ha, toText_of_numeric number,
      Double.textToNumber_display whole small, saturated_of_within low high]
  have part : (string (Text.between before after v.toText)).wholePart = v.wholePart := by
    change (textToNumber _).truncated.getD 0 = _
    rw [read, wholePart_of_numeric number, Double.truncated_of_toInt? whole,
      Double.truncated_of_toInt? (Double.toInt?_ofInt_of_toInt? whole)]
  simp only [toInt32_eq, toUInt32_eq, part, and_self]

/-- **Integers survive a trip through text.** The text of a 32-bit integer, blanks around it or
none, is coerced to the integer itself, and by the coercion to the other kind of integers to the one
with the same bits. -/
theorem integers_survive_text (i : Int32) (u : UInt32) (before after : List Char)
    (hb : ∀ c ∈ before, Text.isBlank c = true) (ha : ∀ c ∈ after, Text.isBlank c = true) :
    (Coercion.int.apply (.string (Text.between before after (Value.int i).toText)) = .ok (.int i) ∧
      ∃ w, Coercion.uint.apply (.string (Text.between before after (Value.int i).toText)) =
        .ok (.uint w) ∧ w.toBitVec = i.toBitVec) ∧
    (Coercion.uint.apply (.string (Text.between before after (Value.uint u).toText)) =
        .ok (.uint u) ∧
      ∃ w, Coercion.int.apply (.string (Text.between before after (Value.uint u).toText)) =
        .ok (.int w) ∧ w.toBitVec = u.toBitVec) := by
  have low := i.le_toInt
  have high := i.toInt_lt
  have bound := u.toNat_lt
  have signed :=
    Value.integers_between (v := .int i) rfl (toInt?_ofInt i) (by omega) (by omega) hb ha
  have unsigned :=
    Value.integers_between (v := .uint u) rfl (toInt?_ofNat u) (by omega) (by omega) hb ha
  refine ⟨⟨?_, i.toUInt32, ?_, rfl⟩, ?_, u.toInt32, ?_, rfl⟩
  · rw [Coercion.apply, signed.1]
    rfl
  · rw [Coercion.apply, signed.2]
    rfl
  · rw [Coercion.apply, unsigned.2]
    rfl
  · rw [Coercion.apply, unsigned.1]
    rfl

/-- The least integer between a tab and an ideographic space, and the largest one between nothing
and a line feed. -/
theorem integers_survive_text_within :
    ((∀ c ∈ ['\t'], Text.isBlank c = true) ∧ (∀ c ∈ [Char.ofNat 0x3000], Text.isBlank c = true) ∧
      Coercion.int.apply (.string (Text.between ['\t'] [Char.ofNat 0x3000]
        (Value.int (-2147483648)).toText)) = .ok (.int (-2147483648))) ∧
    ((∀ c ∈ ['\n'], Text.isBlank c = true) ∧
      Coercion.uint.apply (.string (Text.between [] ['\n'] (Value.uint 4294967295).toText)) =
        .ok (.uint 4294967295)) := by
  have tab : ∀ c ∈ ['\t'], Text.isBlank c = true := List.forall_mem_singleton.mpr (by decide)
  have space : ∀ c ∈ [Char.ofNat 0x3000], Text.isBlank c = true :=
    List.forall_mem_singleton.mpr (by decide)
  have feed : ∀ c ∈ ['\n'], Text.isBlank c = true := List.forall_mem_singleton.mpr (by decide)
  have least := integers_survive_text (-2147483648) 0 _ _ tab space
  have largest := integers_survive_text 0 4294967295 [] _ (by simp) feed
  exact ⟨⟨tab, space, least.1.1⟩, feed, largest.2.1⟩

end

end ClassLink
