import ClassLink.Proofs.Hierarchy
import ClassLink.Proofs.Wrapping

/-!
# The value domain of a class

A class tells its instances from other values, and it coerces values. For the classes of numbers
the two are written down separately: a test looks at the kind of a number and, for doubles, at
its range, while a coercion computes modulo 2³². They agree (`coerce_describes_domain`): what a
coercion gives is an instance and is left alone by a second coercion, and a coercion gives an
instance back as an equal value.

The test is not quite a test of the number. A class of 32-bit integers accepts a double that is
one of its integers, but of the two kinds of integers only its own, so a number may be an instance
in one kind and not in another (`Coercion.overlooks`). Apart from that, equal values are instances
of the same classes (`isInstance_eq_iff`).
-/

namespace ClassLink

/-! ### Instances among the numbers -/

namespace Coercion

/-- A number is one that a class coerces to. -/
def holds (k : Coercion) (d : Double) : Bool :=
  match k with
  | .number => true
  | .int => Store.isWithin (-2147483648) 2147483647 d
  | .uint => Store.isWithin 0 4294967295 d
  | _ => false

/-- An integer that a class coerces to is no instance, since it is of the other kind. -/
def overlooks : Coercion → Value → Bool
  | .int, .uint u => u.toNat ≤ 2147483647
  | .uint, .int i => 0 ≤ i.toInt
  | _, _ => false

/-- Equal doubles are held alike. -/
theorem holds_congr (k : Coercion) {a b : Double} (h : a.equal b = true) :
    k.holds a = k.holds b := by
  cases k <;> simp only [holds, Store.isWithin, Double.toInt?_congr h]

end Coercion

theorem Store.isWithin_of_toInt? {d : Double} {n : Int} (h : d.toInt? = some n) (low high : Int) :
    isWithin low high d = (low ≤ n && n ≤ high) := by
  rw [isWithin, h]

theorem Store.exists_of_isWithin {d : Double} {low high : Int} (h : isWithin low high d = true) :
    ∃ n, d.toInt? = some n ∧ low ≤ n ∧ n ≤ high := by
  unfold isWithin at h
  split at h
  · rename_i n whole
    exact ⟨n, whole, by simpa using h⟩
  · cases h

section
variable (i : Int32) (u : UInt32)

/-! A 32-bit integer is a double, without rounding. -/

theorem natAbs_toInt_le : i.toInt.natAbs ≤ 2 ^ 53 := by
  have low := i.le_toInt
  have high := i.toInt_lt
  omega

theorem toNat_le : u.toNat ≤ 2 ^ 53 := by
  have high := u.toNat_lt
  omega

theorem toInt?_ofInt : (Double.ofInt i.toInt).toInt? = some i.toInt :=
  Double.toInt?_of_position (natAbs_toInt_le i) (Double.position_ofInt (natAbs_toInt_le i))

theorem toInt?_ofNat : (Double.ofNat u.toNat).toInt? = some (u.toNat : Int) :=
  Double.toInt?_of_position (toNat_le u) (Double.position_ofNat (toNat_le u))

end

/-- A number is an instance if it is one that the class coerces to and is not overlooked. -/
theorem Store.isInstance_of_numeric {s : Store} {c : ClassRef} {v : Value} {d : Double}
    (h : v.numeric? = some d) :
    s.isInstance c v = ((s.classAt c).coercion.holds d &&
      !(s.classAt c).coercion.overlooks v) := by
  cases v with
  | int i =>
    obtain rfl := Option.some.inj h
    have low := i.le_toInt
    have high := i.toInt_lt
    have whole := toInt?_ofInt i
    cases k : (s.classAt c).coercion <;>
      simp [isInstance, Coercion.holds, Coercion.overlooks, k, isWithin_of_toInt? whole] <;> omega
  | uint u =>
    obtain rfl := Option.some.inj h
    have high := u.toNat_lt
    have whole := toInt?_ofNat u
    cases k : (s.classAt c).coercion <;>
      simp [isInstance, Coercion.holds, Coercion.overlooks, k, isWithin_of_toInt? whole]
    omega
  | number d =>
    obtain rfl := Option.some.inj h
    cases k : (s.classAt c).coercion <;>
      simp [isInstance, Coercion.holds, Coercion.overlooks, k]
  | _ => cases h

/-- What is overlooked is a number that the class coerces to. -/
theorem Coercion.holds_of_overlooks {k : Coercion} {v : Value} {d : Double}
    (h : v.numeric? = some d) (overlooked : k.overlooks v = true) : k.holds d = true := by
  unfold overlooks at overlooked
  split at overlooked
  · rename_i u
    obtain rfl := Option.some.inj h
    have small := of_decide_eq_true overlooked
    rw [holds, Store.isWithin_of_toInt? (toInt?_ofNat u)]
    simp only [Bool.and_eq_true, decide_eq_true_eq]
    omega
  · rename_i i
    obtain rfl := Option.some.inj h
    have low := of_decide_eq_true overlooked
    have high := i.toInt_lt
    rw [holds, Store.isWithin_of_toInt? (toInt?_ofInt i)]
    simp only [Bool.and_eq_true, decide_eq_true_eq]
    omega
  · cases overlooked

/-! ### Equal values -/

/-- Equal values are the same, or numbers that are equal. -/
theorem Value.eq_or_numeric_of_equal {a b : Value} (h : a.equal b = true) :
    a = b ∨ ∃ x y, a.numeric? = some x ∧ b.numeric? = some y ∧ x.equal y = true := by
  unfold equal at h
  split at h
  · exact .inl rfl
  · exact .inl rfl
  · exact .inl (congrArg _ (eq_of_beq h))
  · exact .inl (congrArg _ (eq_of_beq h))
  · exact .inl (congrArg _ (eq_of_beq h))
  · exact .inl (congrArg _ (eq_of_beq h))
  · split at h
    · rename_i x y hx hy
      exact .inr ⟨x, y, hx, hy, h⟩
    · cases h

section
variable {a b : Value} (s : Store) (c : ClassRef)

theorem Store.isInstance_eq_iff_overlooks (h : a.equal b = true) :
    s.isInstance c a = s.isInstance c b ↔
      (s.classAt c).coercion.overlooks a = (s.classAt c).coercion.overlooks b := by
  rcases Value.eq_or_numeric_of_equal h with rfl | ⟨x, y, hx, hy, same⟩
  · simp
  have held := (s.classAt c).coercion.holds_congr same
  have left := Coercion.holds_of_overlooks (k := (s.classAt c).coercion) hx
  have right := Coercion.holds_of_overlooks (k := (s.classAt c).coercion) hy
  rw [isInstance_of_numeric hx, isInstance_of_numeric hy, held]
  rw [held] at left
  generalize (s.classAt c).coercion.holds y = inside at left right
  generalize (s.classAt c).coercion.overlooks a = l at left
  generalize (s.classAt c).coercion.overlooks b = r at right
  cases l <;> cases r <;> simp_all

/-- **Equal values are instances of the same classes** unless one of them is overlooked: the class
coerces to 32-bit integers of one kind, the number is one of them, and one value is of the other
kind while the other is not. The test that scripts make is the same but for the root class, which
tells no equal values apart. -/
theorem isInstance_eq_iff (h : a.equal b = true) :
    (s.isInstance c a = s.isInstance c b ↔
      (s.classAt c).coercion.overlooks a = (s.classAt c).coercion.overlooks b) ∧
    (s.passesInstanceTest c a = s.passesInstanceTest c b ↔ (s.classAt c).kind = .root ∨
      (s.classAt c).coercion.overlooks a = (s.classAt c).coercion.overlooks b) := by
  have instances := s.isInstance_eq_iff_overlooks c h
  refine ⟨instances, ?_⟩
  unfold Store.passesInstanceTest
  by_cases root : (s.classAt c).kind = .root
  · rw [if_pos root, if_pos root]
    refine iff_of_true (congrArg not ?_) (.inl root)
    rcases Value.eq_or_numeric_of_equal h with rfl | ⟨x, y, hx, hy, _⟩
    · rfl
    · have missing : ∀ {v : Value} {d : Double}, v.numeric? = some d → v.isNullish = false := by
        intro v d hv
        cases v <;> first | rfl | cases hv
      rw [missing hx, missing hy]
  · rw [if_neg root, if_neg root, instances]
    simp [root]

end

namespace Sample

/-- Linking a class of signed integers. -/
def linkIntegers : Run ClassRef :=
  link ⟨0⟩ { ClassDescriptor.bare "int" with nativeId := some "int" } none (.global ⟨0⟩)

/-- The store with that class. -/
def integral : Store :=
  (exec linkIntegers { opened with
    natives := ⟨[], [("int", (NativeDefinition.bare "int").coerceWith .int)], false⟩ }).2

end Sample

/-- A signed integer and the same number as a double are both instances. -/
theorem isInstance_eq_iff_double : (Value.int 5).equal (.number (.ofNat 5)) = true ∧
    Sample.integral.isInstance ⟨0⟩ (.int 5) =
      Sample.integral.isInstance ⟨0⟩ (.number (.ofNat 5)) ∧
    Sample.integral.passesInstanceTest ⟨0⟩ (.int 5) =
      Sample.integral.passesInstanceTest ⟨0⟩ (.number (.ofNat 5)) := by
  have equal : (Value.int 5).equal (.number (.ofNat 5)) = true := by decide +kernel
  have instances := isInstance_eq_iff Sample.integral ⟨0⟩ equal
  exact ⟨equal, instances.1.mpr (by decide +kernel), instances.2.mpr (.inr (by decide +kernel))⟩

/-- The same number as an unsigned integer is equal to both, and no instance. -/
theorem not_isInstance_unsigned : (Value.int 5).equal (.uint 5) = true ∧
    Sample.integral.isInstance ⟨0⟩ (.int 5) = true ∧
    Sample.integral.isInstance ⟨0⟩ (.uint 5) = false ∧
    Sample.integral.passesInstanceTest ⟨0⟩ (.int 5) = true ∧
    Sample.integral.passesInstanceTest ⟨0⟩ (.uint 5) = false := by
  decide +kernel

/-! ### Coercing -/

/-- Numbers are equal if they lie at one place. -/
theorem Value.equal_of_position {a b : Value} {x y : Double} {p : Int} (ha : a.numeric? = some x)
    (hb : b.numeric? = some y) (hx : x.position = some p) (hy : y.position = some p) :
    a.equal b = true := by
  have same : x.equal y = true := Double.equal_iff.mpr ⟨p, hx, hy⟩
  unfold equal
  split
  -- all cases but the last are about values that are no numbers
  case h_7 => simp only [ha, hb, same]
  all_goals cases ha

theorem Value.equal_self {v : Value} (h : v ≠ .number .nan) : v.equal v = true := by
  cases v with
  | number d =>
    cases d with
    | nan => exact absurd rfl h
    | infinity | finite => exact equal_of_position rfl rfl rfl rfl
  | int i =>
    have position := Double.position_ofInt (natAbs_toInt_le i)
    exact equal_of_position rfl rfl position position
  | uint u =>
    have position := Double.position_ofNat (toNat_le u)
    exact equal_of_position rfl rfl position position
  | _ => simp [equal]

/-- A double that is a signed 32-bit integer is equal to what it converts to. -/
theorem Double.equal_toInt32 {d : Double} {n : Int} (whole : d.toInt? = some n)
    (low : -2147483648 ≤ n) (high : n ≤ 2147483647) :
    (Value.int d.toInt32).equal (.number d) = true := by
  have same : d.toInt32.toInt = n := by
    rw [toInt32_eq, truncated_of_toInt? whole, Option.getD_some]
    exact Int32.toInt_ofInt_of_le (by omega) (by omega)
  have position := position_ofInt (natAbs_toInt_le d.toInt32)
  rw [same] at position
  exact Value.equal_of_position rfl rfl (by rwa [same]) (toInt?_eq_some_iff.mp whole).2

/-- A double that is an unsigned 32-bit integer is equal to what it converts to. -/
theorem Double.equal_toUInt32 {d : Double} {n : Int} (whole : d.toInt? = some n)
    (low : 0 ≤ n) (high : n ≤ 4294967295) :
    (Value.uint d.toUInt32).equal (.number d) = true := by
  have same : (d.toUInt32.toNat : Int) = n := by
    rw [toUInt32_eq, truncated_of_toInt? whole, Option.getD_some, UInt32.ofInt, UInt32.toNat_ofNat']
    omega
  have position := position_ofNat (toNat_le d.toUInt32)
  rw [same] at position
  exact Value.equal_of_position rfl rfl position (toInt?_eq_some_iff.mp whole).2

namespace Store

variable {s : Store} {c : ClassRef} {v w : Value}

/-- What a coercion gives is left alone by a second one. -/
theorem coerce_coerced (h : s.coerce c v = .ok w) : s.coerce c w = .ok w := by
  unfold coerce at h ⊢
  dsimp only at h ⊢
  cases k : (s.classAt c).coercion <;> rw [k] at h
  case «instance» =>
    dsimp only at h ⊢
    split at h
    · obtain rfl := Except.ok.inj h
      rfl
    · rename_i given
      split at h
      · rename_i accepted
        obtain rfl := Except.ok.inj h
        rw [if_neg given, if_pos accepted]
      · cases h
  case object =>
    cases v with
    | undefined => cases h
    | _ =>
      obtain rfl := Except.ok.inj h
      rfl
  case string =>
    obtain rfl := Except.ok.inj h
    cases missing : v.isNullish <;> rfl
  all_goals
    obtain rfl := Except.ok.inj h
    rfl

/-- What a coercion gives is null or an instance, unless it passes all values on. -/
theorem isInstance_coerced (h : s.coerce c v = .ok w) (any : (s.classAt c).coercion ≠ .any)
    (object : (s.classAt c).coercion ≠ .object) : w = .null ∨ s.isInstance c w = true := by
  unfold coerce at h
  dsimp only at h
  cases k : (s.classAt c).coercion <;> rw [k] at h
  case any => exact absurd k any
  case object => exact absurd k object
  case «instance» =>
    dsimp only at h
    split at h
    · exact .inl (Except.ok.inj h).symm
    · split at h
      · rename_i accepted
        obtain rfl := Except.ok.inj h
        exact .inr accepted
      · cases h
  case string =>
    obtain rfl := Except.ok.inj h
    cases missing : v.isNullish
    · exact .inr (by simp [isInstance, k])
    · exact .inl rfl
  all_goals
    obtain rfl := Except.ok.inj h
    exact .inr (by simp [isInstance, k])

/-- An instance that is a number or another value without identity is coerced to an equal one. -/
theorem coerce_instance (h : s.isInstance c v = true) (number : v ≠ .number .nan)
    (plain : v.object? = none) (plain' : v.function? = none) :
    ∃ w, s.coerce c v = .ok w ∧ w.equal v = true := by
  have self := Value.equal_self number
  unfold coerce
  dsimp only
  cases v with
  | undefined | null => cases h
  | object => cases plain
  | function => cases plain'
  | boolean b =>
    have k : (s.classAt c).coercion = .boolean := by simpa [isInstance] using h
    exact ⟨_, by rw [k]; rfl, self⟩
  | string x =>
    have k : (s.classAt c).coercion = .string := by simpa [isInstance] using h
    exact ⟨_, by rw [k]; rfl, self⟩
  | int i =>
    have k : (s.classAt c).coercion = .int ∨ (s.classAt c).coercion = .number := by
      simpa [isInstance] using h
    rcases k with k | k
    · exact ⟨_, by rw [k]; rfl, self⟩
    · have position := Double.position_ofInt (natAbs_toInt_le i)
      exact ⟨.number (.ofInt i.toInt), by rw [k]; rfl,
        Value.equal_of_position rfl rfl position position⟩
  | uint u =>
    have k : (s.classAt c).coercion = .uint ∨ (s.classAt c).coercion = .number := by
      simpa [isInstance] using h
    rcases k with k | k
    · exact ⟨_, by rw [k]; rfl, self⟩
    · have position := Double.position_ofNat (toNat_le u)
      exact ⟨.number (.ofNat u.toNat), by rw [k]; rfl,
        Value.equal_of_position rfl rfl position position⟩
  | number d =>
    rw [isInstance_of_numeric (d := d) rfl] at h
    have held := (Bool.and_eq_true_iff.mp h).1
    cases k : (s.classAt c).coercion <;> rw [k] at held
    case number => exact ⟨_, rfl, self⟩
    case int =>
      obtain ⟨n, whole, low, high⟩ := exists_of_isWithin held
      exact ⟨_, rfl, Double.equal_toInt32 whole low high⟩
    case uint =>
      obtain ⟨n, whole, low, high⟩ := exists_of_isWithin held
      exact ⟨_, rfl, Double.equal_toUInt32 whole low high⟩
    all_goals cases held

/-- A coercion that looks at no more than the instances passes objects and functions on. -/
theorem coerce_reference (h : s.isInstance c v = true)
    (k : (s.classAt c).coercion = .object ∨ (s.classAt c).coercion = .any ∨
      (s.classAt c).coercion = .instance) : s.coerce c v = .ok v := by
  have given : v.isNullish = false := by
    cases v <;> first | rfl | cases h
  unfold coerce
  dsimp only
  rcases k with k | k | k <;> rw [k]
  · cases v <;> first | rfl | cases h
  · rfl
  · dsimp only
    rw [given, if_neg Bool.false_ne_true, if_pos h]

end Store

/-- **Coercing and telling instances describe one domain.** What a class coerces a value to is left
alone when it is coerced again, and is null or an instance unless the class coerces objects or any
values. An instance other than NaN is coerced to an equal value, if it is no object or function or
else the class coerces to its instances, to objects or to any values. -/
theorem coerce_describes_domain (s : Store) (c : ClassRef) (v : Value) :
    (∀ w, s.coerce c v = .ok w → s.coerce c w = .ok w ∧
      ((s.classAt c).coercion ∉ [Coercion.any, .object] → w = .null ∨ s.isInstance c w = true)) ∧
    (s.isInstance c v = true → v ≠ .number .nan →
      (v.object? = none ∧ v.function? = none ∨
        (s.classAt c).coercion ∈ [Coercion.object, .any, .instance]) →
      ∃ w, s.coerce c v = .ok w ∧ w.equal v = true) := by
  constructor
  · intro w h
    refine ⟨Store.coerce_coerced h, fun other => ?_⟩
    simp only [List.mem_cons, List.not_mem_nil, or_false, not_or] at other
    exact Store.isInstance_coerced h other.1 other.2
  · rintro h number (⟨plain, plain'⟩ | k)
    · exact Store.coerce_instance h number plain plain'
    · refine ⟨v, Store.coerce_reference h ?_, Value.equal_self number⟩
      simpa using k

/-- A double beyond 2³² is coerced to a signed integer, which is an instance; and a double that is
a signed integer is an instance, which is coerced to an equal one. -/
theorem coerce_describes_domain_integral :
    (Sample.integral.coerce ⟨0⟩ (.int 5) = .ok (.int 5) ∧
      Sample.integral.isInstance ⟨0⟩ (.int 5) = true) ∧
    ∃ w, Sample.integral.coerce ⟨0⟩ (.number (.ofNat 5)) = .ok w ∧
      w.equal (.number (.ofNat 5)) = true := by
  have beyond := coerce_describes_domain Sample.integral ⟨0⟩ (.number (.ofNat 4294967301))
  have within := coerce_describes_domain Sample.integral ⟨0⟩ (.number (.ofNat 5))
  obtain ⟨again, inside⟩ := beyond.1 (.int 5) (by decide +kernel)
  refine ⟨⟨again, ?_⟩, within.2 (by decide +kernel) (by decide +kernel) (.inl ⟨rfl, rfl⟩)⟩
  exact (inside (by decide +kernel)).resolve_left (by decide)

end ClassLink
