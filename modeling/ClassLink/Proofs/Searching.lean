import ClassLink.Native.Builtins
import ClassLink.Proofs.EqualValues
import ClassLink.Proofs.Execution
import Mathlib.Order.Bounds.Basic

/-!
# Searching and indexing texts

A text can be searched for another one, and its characters can be asked for by their indices. The
two agree on what an index is (`search_agrees_with_indexing`): the search gives the least number of
characters that stand before an occurrence, and at the characters from there on the text has those
of the one searched for.

A text is stored as its bytes in UTF-8, and may as well be searched for the least offset at which
the bytes of the other text occur. There are whole characters before such an offset, since no
character begins like the rest of another one (`exists_of_bytesOccurAt`), so both searches find the
same place (`isLeast_bytes_iff`).
-/

namespace ClassLink

/- Powers of natural numbers are those of core, as in the definitions. -/
attribute [local instance (2000)] instPowNat

/- Both are powers of two too large to be written out. -/
attribute [local irreducible] Double.one Double.limit

/-! ### Occurrences among the characters -/

namespace Text

/-- A text occurs in another one behind `i` characters. -/
def OccursAt (needle text : List Char) (i : ℕ) : Prop :=
  ∃ before after, text = before ++ needle ++ after ∧ before.length = i

section
variable {needle text : List Char} {c : Char} {i : ℕ}

theorem occursAt_zero_iff : OccursAt needle text 0 ↔ needle <+: text := by
  constructor
  · rintro ⟨before, after, rfl, none⟩
    rw [List.length_eq_zero_iff.mp none]
    exact ⟨after, rfl⟩
  · rintro ⟨after, rfl⟩
    exact ⟨[], after, rfl, rfl⟩

theorem occursAt_succ_iff : OccursAt needle (c :: text) (i + 1) ↔ OccursAt needle text i := by
  constructor
  · rintro ⟨before, after, split, len⟩
    cases before with
    | nil => cases len
    | cons d before =>
      obtain ⟨-, rest⟩ := List.cons.inj split
      exact ⟨before, after, rest, Nat.succ.inj len⟩
  · rintro ⟨before, after, rfl, rfl⟩
    exact ⟨c :: before, after, rfl, rfl⟩

theorem not_occursAt_nil_succ : ¬ OccursAt needle [] (i + 1) := by
  rintro ⟨before, after, split, len⟩
  simp only [List.nil_eq, List.append_eq_nil_iff] at split
  simp [split.1.1] at len

/-- An occurrence ends inside the text. -/
theorem OccursAt.add_length_le (h : OccursAt needle text i) : i + needle.length ≤ text.length := by
  obtain ⟨before, after, rfl, rfl⟩ := h
  simp

/-- From an occurrence on, the text has the characters of the one that occurs. -/
theorem OccursAt.getElem? (h : OccursAt needle text i) {j : ℕ} (inside : j < needle.length) :
    text[i + j]? = needle[j]? := by
  obtain ⟨before, after, rfl, rfl⟩ := h
  rw [List.append_assoc, List.getElem?_append_right (by omega), Nat.add_sub_cancel_left,
    List.getElem?_append_left inside]

/-- A search that fails has looked at every index. -/
theorem not_occursAt_of_indexOf? (h : indexOf? needle text = none) (j : ℕ) :
    ¬ OccursAt needle text j := by
  induction text generalizing j with
  | nil =>
    cases j with
    | zero =>
      rw [occursAt_zero_iff, List.prefix_nil]
      rintro rfl
      simp [indexOf?] at h
    | succ j => exact not_occursAt_nil_succ
  | cons c text ih =>
    rw [indexOf?] at h
    split at h
    · cases h
    · rename_i apart
      cases j with
      | zero => rwa [occursAt_zero_iff, ← List.isPrefixOf_iff_prefix]
      | succ j =>
        rw [occursAt_succ_iff]
        exact ih (Option.map_eq_none_iff.mp h) j

/-- A search that succeeds gives the least index: it has looked at all before it. -/
theorem isLeast_of_indexOf? (h : indexOf? needle text = some i) :
    IsLeast {j | OccursAt needle text j} i := by
  induction text generalizing i with
  | nil =>
    rw [indexOf?] at h
    split at h
    · rename_i empty
      obtain rfl := Option.some.inj h
      refine ⟨occursAt_zero_iff.mpr ?_, fun j _ => Nat.zero_le j⟩
      rw [List.isEmpty_iff.mp empty]
    · cases h
  | cons c text ih =>
    rw [indexOf?] at h
    split at h
    · rename_i here
      obtain rfl := Option.some.inj h
      exact ⟨occursAt_zero_iff.mpr (List.isPrefixOf_iff_prefix.mp here), fun j _ => Nat.zero_le j⟩
    · rename_i apart
      obtain ⟨j, found, rfl⟩ := Option.map_eq_some_iff.mp h
      obtain ⟨occurs, least⟩ := ih found
      refine ⟨occursAt_succ_iff.mpr occurs, fun k other => ?_⟩
      cases k with
      | zero => exact absurd (List.isPrefixOf_iff_prefix.mpr (occursAt_zero_iff.mp other)) apart
      | succ k => exact Nat.succ_le_succ (least (occursAt_succ_iff.mp other))

end

/-! ### Occurrences among the bytes -/

/-- The bytes of a text occur among those of another one behind `b` bytes. -/
def BytesOccurAt (needle text : String) (b : ℕ) : Prop :=
  ∃ before after : ByteArray,
    text.toByteArray = before ++ needle.toByteArray ++ after ∧ before.size = b

section
variable {needle text before after : String} {b : ℕ}

theorem occursAt_of_append (h : text = before ++ needle ++ after) :
    OccursAt needle.toList text.toList before.length :=
  ⟨before.toList, after.toList, by simp [h], String.length_toList⟩

/-- What stands before and after an occurrence are texts themselves. -/
theorem OccursAt.exists_append {i : ℕ} (h : OccursAt needle.toList text.toList i) :
    ∃ before after : String, text = before ++ needle ++ after ∧ before.length = i := by
  obtain ⟨before, after, split, rfl⟩ := h
  refine ⟨.ofList before, .ofList after, ?_, by simp⟩
  rw [← String.toList_inj]
  simp [split]

theorem bytesOccurAt_of_append (h : text = before ++ needle ++ after) :
    BytesOccurAt needle text before.utf8ByteSize :=
  ⟨before.toByteArray, after.toByteArray, by simp [h], rfl⟩

/-- The first byte of a text that occurs begins a character of the other text. -/
theorem isValid_of_bytesOccurAt (h : BytesOccurAt needle text b) (given : needle ≠ "") :
    String.Pos.Raw.IsValid text ⟨b⟩ := by
  obtain ⟨B, A, bytes, rfl⟩ := h
  have some : 0 < needle.utf8ByteSize := by
    rw [Nat.pos_iff_ne_zero, ne_eq, String.utf8ByteSize_eq_zero_iff]
    exact given
  have size : text.utf8ByteSize = B.size + needle.utf8ByteSize + A.size := by
    rw [← String.size_toByteArray, bytes]
    simp
  have inside : (⟨B.size⟩ : String.Pos.Raw) < text.rawEndPos := by
    rw [String.Pos.Raw.lt_iff, String.byteIdx_rawEndPos]
    dsimp only
    omega
  refine String.Pos.Raw.isValid_iff_isUTF8FirstByte.mpr (.inr ⟨inside, ?_⟩)
  have first : text.getUTF8Byte ⟨B.size⟩ inside =
      needle.getUTF8Byte 0 (String.Pos.Raw.lt_iff.mpr (by simpa using some)) := by
    simp only [String.getUTF8Byte_eq_getElem, bytes]
    rw [ByteArray.getElem_append_left (by simp; omega), ByteArray.getElem_append_right (le_refl _)]
    simp
  rw [first]
  exact String.isUTF8FirstByte_getUTF8Byte_zero

/-- The bytes of a text occur only where its characters do: what stands before them is a text. -/
theorem exists_of_bytesOccurAt (h : BytesOccurAt needle text b) (given : needle ≠ "") :
    ∃ before after, text = before ++ needle ++ after ∧ before.utf8ByteSize = b := by
  obtain ⟨before, rest, rfl, place⟩ :=
    String.Pos.Raw.isValid_iff_exists_append.mp (isValid_of_bytesOccurAt h given)
  obtain ⟨B, A, bytes, rfl⟩ := h
  have size : before.toByteArray.size = B.size := (congrArg String.Pos.Raw.byteIdx place).symm
  rw [String.toByteArray_append, ByteArray.append_assoc] at bytes
  rw [← ByteArray.append_inj_left bytes size, ByteArray.append_right_inj,
    ← String.utf8Encode_toList, ← String.utf8Encode_toList] at bytes
  obtain ⟨after, split⟩ := List.isPrefix_of_utf8Encode_append_eq_utf8Encode A bytes.symm
  refine ⟨before, .ofList after, ?_, size⟩
  rw [← String.toList_inj]
  simp [← split]

/-- Of two beginnings of a text, the one with fewer characters is the one with fewer bytes. -/
theorem length_le_iff_utf8ByteSize_le {p q x y : String} (h : p ++ x = q ++ y) :
    p.length ≤ q.length ↔ p.utf8ByteSize ≤ q.utf8ByteSize := by
  have extend : ∀ {p q : String}, p.toList <+: q.toList → ∃ r, q = p ++ r := by
    rintro p q ⟨r, split⟩
    refine ⟨.ofList r, ?_⟩
    rw [← String.toList_inj]
    simp [split]
  have left : p.toList <+: (p ++ x).toList := by simp
  have right : q.toList <+: (p ++ x).toList := by simp [h]
  rcases List.prefix_or_prefix_of_prefix left right with shorter | longer
  · obtain ⟨r, rfl⟩ := extend shorter
    simp
  · obtain ⟨r, rfl⟩ := extend longer
    simp

/-- **The least offset among the bytes is the least index among the characters.** -/
theorem isLeast_bytes_iff (h : text = before ++ needle ++ after) :
    IsLeast {b | BytesOccurAt needle text b} before.utf8ByteSize ↔
      IsLeast {i | OccursAt needle.toList text.toList i} before.length := by
  have compare : ∀ {before' after'}, text = before' ++ needle ++ after' →
      (before.length ≤ before'.length ↔ before.utf8ByteSize ≤ before'.utf8ByteSize) := by
    intro before' after' h'
    refine length_le_iff_utf8ByteSize_le (x := needle ++ after) (y := needle ++ after') ?_
    rw [← String.append_assoc, ← h, h', String.append_assoc]
  constructor
  · rintro ⟨-, least⟩
    refine ⟨occursAt_of_append h, ?_⟩
    intro i occurs
    obtain ⟨before', after', h', rfl⟩ := OccursAt.exists_append occurs
    exact (compare h').mpr (least (bytesOccurAt_of_append h'))
  · rintro ⟨-, least⟩
    refine ⟨bytesOccurAt_of_append h, ?_⟩
    intro b occurs
    by_cases given : needle = ""
    -- the empty text occurs behind no character, but among the bytes of a character as well
    · have first : before.length ≤ 0 := least (occursAt_zero_iff.mpr (by simp [given]))
      simp [String.length_eq_zero_iff.mp (Nat.le_zero.mp first)]
    · obtain ⟨before', after', h', rfl⟩ := exists_of_bytesOccurAt occurs given
      exact (compare h').mp (least (occursAt_of_append h'))

end

end Text

/-! ### The two members -/

/-- The body of a method of a holder. -/
def HolderDefinition.method? (h : HolderDefinition) (name : String) : Option HostFunction :=
  match h.members.find? (·.name = name) with
  | some ⟨_, .method _ f⟩ => some f
  | _ => none

/-- A number that is an index, of whichever kind it is. -/
theorem Value.toInt?_of_rational? {v : Value} {m : ℕ} (h : v.rational? = some (m : ℚ)) :
    v.toNumber.toInt? = some (m : ℤ) := by
  cases v with
  | int i =>
    have same : i.toInt = m := by exact_mod_cast Option.some.inj h
    rw [← same]
    exact toInt?_ofInt i
  | uint u =>
    have same : u.toNat = m := by exact_mod_cast Option.some.inj h
    rw [← same]
    exact toInt?_ofNat u
  | number d => exact Double.rational?_eq_intCast_iff.mp (by exact_mod_cast h)
  | _ => cases h

theorem characterAt_eq (s : String) {d : Double} {m : ℕ} (whole : d.toInt? = some (m : ℤ)) :
    characterAt s d = String.ofList s.toList[m]?.toList := by
  have above : ¬ d.less .zero = true := by
    rw [Double.less_iff whole Double.toInt?_zero]
    omega
  have number : d.isNaN = false := by
    cases d with
    | nan => cases whole
    | infinity | finite => rfl
  rw [characterAt, number, Bool.or_false, if_neg above, Double.truncated_of_toInt? whole]
  rfl

/-- The search gives -1 or the least index. -/
theorem firstIndex_eq {s : String} (small : s.length < 2147483648) (n : String) :
    (firstIndex s n = -1 ∧ ∀ i, ¬ Text.OccursAt n.toList s.toList i) ∨
      ∃ i : ℕ, (firstIndex s n).toInt = i ∧ IsLeast {j | Text.OccursAt n.toList s.toList j} i := by
  unfold firstIndex
  cases found : Text.indexOf? n.toList s.toList with
  | none => exact .inl ⟨rfl, Text.not_occursAt_of_indexOf? found⟩
  | some i =>
    have least := Text.isLeast_of_indexOf? found
    have inside := least.1.add_length_le
    simp only [String.length_toList] at inside
    exact .inr ⟨i, Int32.toInt_ofNat_of_lt (by omega), least⟩

/-- **Search and indexing agree.** In a text that a 32-bit index reaches through, the search for
another text gives the least number of characters before an occurrence, which is that before the
least offset among the bytes at which it occurs, and -1 exactly if there is no occurrence; and the
characters from an index it gives are, one by one, those of the text searched for, whichever kind of
number asks for them. -/
theorem search_agrees_with_indexing {search pick : HostFunction}
    (hs : Builtins.stringHolder.method? "indexOf" = some search)
    (hp : Builtins.stringHolder.method? "charAt" = some pick) (invoke : Invoke) (σ : Store)
    {s : String} (small : s.length < 2147483648) (n : String) :
    ∃ k : Int32, exec (search.run invoke (.string s) [.string n]) σ = (.ok (.int k), σ) ∧
      (k = -1 ↔ ∀ i, ¬ Text.OccursAt n.toList s.toList i) ∧
      ∀ i : ℕ,
        (k.toInt = i ↔ IsLeast {j | Text.OccursAt n.toList s.toList j} i) ∧
        (k.toInt = i ↔ ∃ before after, s = before ++ n ++ after ∧ before.length = i ∧
          IsLeast {b | Text.BytesOccurAt n s b} before.utf8ByteSize) ∧
        (k.toInt = i → ∀ j c v, n.toList[j]? = some c → v.rational? = some ((i + j : ℕ) : ℚ) →
          exec (pick.run invoke (.string s) [v]) σ = (.ok (.string (.singleton c)), σ)) := by
  obtain rfl : .builtin .indexOf = search := Option.some.inj hs
  obtain rfl : .builtin .charAt = pick := Option.some.inj hp
  have index : ∀ i : ℕ, (firstIndex s n).toInt = i ↔
      IsLeast {j | Text.OccursAt n.toList s.toList j} i := by
    intro i
    rcases firstIndex_eq small n with ⟨missing, nowhere⟩ | ⟨k, value, least⟩
    · rw [missing]
      exact iff_of_false (by simp) fun least => nowhere i least.1
    · rw [value, Int.natCast_inj]
      exact ⟨fun same => same ▸ least, fun other => least.unique other⟩
  refine ⟨firstIndex s n, rfl, ?_, fun i => ⟨index i, ?_, ?_⟩⟩
  · rcases firstIndex_eq small n with ⟨missing, nowhere⟩ | ⟨k, value, least⟩
    · exact iff_of_true missing nowhere
    · refine iff_of_false ?_ fun nowhere => nowhere k least.1
      intro missing
      rw [missing] at value
      simp at value
  · rw [index i]
    constructor
    · intro least
      obtain ⟨before, after, h, rfl⟩ := Text.OccursAt.exists_append least.1
      exact ⟨before, after, h, rfl, (Text.isLeast_bytes_iff h).mpr least⟩
    · rintro ⟨before, after, h, rfl, least⟩
      exact (Text.isLeast_bytes_iff h).mp least
  · intro given j c v character asked
    have occurs := ((index i).mp given).1
    obtain ⟨inside, -⟩ := List.getElem?_eq_some_iff.mp character
    have there := (occurs.getElem? inside).trans character
    change (Except.ok (Value.string (characterAt s v.toNumber)), σ) = _
    rw [characterAt_eq s (Value.toInt?_of_rational? asked), there]
    rfl

/-- A text whose beginning is repeated before it goes on: the search does not stop at the first
character, and the character behind the index that it gives is the second one. -/
theorem search_agrees_past_repetition :
    Builtins.stringHolder.method? "indexOf" = some (.builtin .indexOf) ∧
    Builtins.stringHolder.method? "charAt" = some (.builtin .charAt) ∧
    "ααβ€".length < 2147483648 ∧
    exec ((HostFunction.builtin .indexOf).run (fun _ _ _ => pure .undefined) (.string "ααβ€")
      [.string "αβ"]) Store.initial = (.ok (.int 1), Store.initial) ∧
    IsLeast {j | Text.OccursAt "αβ".toList "ααβ€".toList j} 1 ∧
    exec ((HostFunction.builtin .charAt).run (fun _ _ _ => pure .undefined) (.string "ααβ€")
      [.uint 2]) Store.initial = (.ok (.string (.singleton 'β')), Store.initial) := by
  have short : "ααβ€".length < 2147483648 := by decide
  have search : Builtins.stringHolder.method? "indexOf" = some (.builtin .indexOf) := rfl
  have pick : Builtins.stringHolder.method? "charAt" = some (.builtin .charAt) := rfl
  obtain ⟨k, found, -, agree⟩ := search_agrees_with_indexing search pick
    (fun _ _ _ => pure .undefined) Store.initial short "αβ"
  have index : (1 : Int32) = k := Value.int.inj (Except.ok.inj (congrArg Prod.fst found))
  subst index
  obtain ⟨least, -, characters⟩ := agree 1
  have second : (Value.uint 2).rational? = some ((1 + 1 : ℕ) : ℚ) := by decide +kernel
  exact ⟨search, pick, short, found, least.mp rfl, characters rfl 1 'β' (.uint 2) rfl second⟩

end ClassLink
