import ClassLink.Name
import Mathlib.Data.List.Basic

/-!
# Keys tell names apart

A key joins the word of a namespace, its uri and a local name, and escapes none of them: a uri may
hold the very signs that stand between the three. The key is read back from its two ends all the
same. The word holds no dollar sign, so it ends at the first one; the local name, if it holds no
colon, begins after the last one. What is left between them is the uri.

A name of the unnamed namespace is its own key and has neither sign to be read by. If it holds no
colon, it is no key of another namespace, which holds two.

Without the condition on local names keys collide: what stands before two colons of a local name may
as well be the end of a uri.
-/

namespace ClassLink

/-! ### Splitting a list at a sign -/

section
variable {α : Type} {a : α} {xs ys zs ws : List α}

/-- A list that begins with `a` has nothing before the first `a`. -/
theorem eq_nil_of_cons_eq_append (h : a :: zs = xs ++ a :: ws) (first : a ∉ xs) :
    xs = [] ∧ zs = ws := by
  cases xs with
  | nil => exact ⟨rfl, (List.cons.inj h).2⟩
  | cons x xs => exact absurd ((List.cons.inj h).1 ▸ List.mem_cons_self) first

/-- A list is split in one way only where `a` stands for the first time. -/
theorem append_cons_inj_of_first (hx : a ∉ xs) (hy : a ∉ ys) :
    xs ++ a :: zs = ys ++ a :: ws ↔ xs = ys ∧ zs = ws := by
  constructor
  · intro h
    -- one of the two parts goes on where the other one ends, and there stands `a`
    rcases List.append_eq_append_iff.mp h with ⟨us, rfl, rest⟩ | ⟨us, rfl, rest⟩
    · obtain ⟨rfl, same⟩ := eq_nil_of_cons_eq_append rest (mt (List.mem_append_right _) hy)
      exact ⟨(List.append_nil _).symm, same⟩
    · obtain ⟨rfl, same⟩ := eq_nil_of_cons_eq_append rest (mt (List.mem_append_right _) hx)
      exact ⟨List.append_nil _, same.symm⟩
  · rintro ⟨rfl, rfl⟩
    rfl

/-- And in one way only where `a` stands for the last time. -/
theorem append_cons_inj_of_last (hz : a ∉ zs) (hw : a ∉ ws) :
    xs ++ a :: zs = ys ++ a :: ws ↔ xs = ys ∧ zs = ws := by
  rw [← List.reverse_inj]
  simp only [List.reverse_append, List.reverse_cons, List.append_assoc, List.singleton_append]
  rw [append_cons_inj_of_first (mt List.mem_reverse.mp hz) (mt List.mem_reverse.mp hw),
    List.reverse_inj, List.reverse_inj, and_comm]

end

/-! ### The two ends of a key -/

theorem NamespaceKind.dollar_notMem_word (k : NamespaceKind) : '$' ∉ k.word.toList := by
  cases k <;> decide

/-- Kinds of namespaces have words of their own. -/
theorem NamespaceKind.word_inj {k l : NamespaceKind} : k.word = l.word ↔ k = l := by
  cases k <;> cases l <;> decide

namespace Namespace

/-- What stands before the colons of a key: the word and the uri. -/
def stem (n : Namespace) : List Char := n.kind.word.toList ++ '$' :: n.uri.toList

/-- The word of a namespace ends at the first dollar sign. -/
theorem stem_inj {m n : Namespace} : m.stem = n.stem ↔ m = n := by
  rw [stem, stem, append_cons_inj_of_first m.kind.dollar_notMem_word n.kind.dollar_notMem_word,
    String.toList_inj, String.toList_inj, NamespaceKind.word_inj]
  cases m
  cases n
  rw [mk.injEq]

theorem keyOf_unnamed (name : String) : unnamed.keyOf name = name := rfl

/-- Any other key has two colons between its stem and the local name. -/
theorem toList_keyOf {n : Namespace} (named : n ≠ unnamed) (name : String) :
    (n.keyOf name).toList = (n.stem ++ [':']) ++ ':' :: name.toList := by
  have h : ¬ n.isUnnamed = true := mt n.isUnnamed_iff.mp named
  rw [keyOf, if_neg h, stem]
  simp

/-- A local name without colon is no key of another namespace. -/
theorem keyOf_ne_of_notMem {n : Namespace} (named : n ≠ unnamed) (name : String) {other : String}
    (plain : ':' ∉ other.toList) : n.keyOf name ≠ other := by
  rintro rfl
  rw [toList_keyOf named] at plain
  exact plain (List.mem_append_right _ List.mem_cons_self)

/-- Keys of local names without colon are equal only in one namespace and for one name. -/
theorem keyOf_inj {m n : Namespace} {a b : String} (ha : ':' ∉ a.toList) (hb : ':' ∉ b.toList) :
    m.keyOf a = n.keyOf b ↔ m = n ∧ a = b := by
  by_cases hm : m = unnamed <;> by_cases hn : n = unnamed
  · rw [hm, hn, keyOf_unnamed, keyOf_unnamed, eq_self, true_and]
  · rw [hm, keyOf_unnamed]
    exact iff_of_false (keyOf_ne_of_notMem hn b ha).symm fun same => hn same.1.symm
  · rw [hn, keyOf_unnamed]
    exact iff_of_false (keyOf_ne_of_notMem hm a hb) fun same => hm same.1
  · rw [← String.toList_inj, toList_keyOf hm, toList_keyOf hn, append_cons_inj_of_last ha hb,
      List.append_left_inj, stem_inj, String.toList_inj]

end Namespace

/-- **Keys do not collide.** Two names whose local names hold no colon have the same key only if
they have the same kind of namespace, the same uri and the same local name. -/
theorem QualifiedName.key_eq_iff {m n : QualifiedName} (hm : ':' ∉ m.name.toList)
    (hn : ':' ∉ n.name.toList) :
    m.key = n.key ↔
      m.space.kind = n.space.kind ∧ m.space.uri = n.space.uri ∧ m.name = n.name := by
  obtain ⟨⟨_, _⟩, _⟩ := m
  obtain ⟨⟨_, _⟩, _⟩ := n
  rw [key, key, Namespace.keyOf_inj hm hn, Namespace.mk.injEq, and_assoc]

/-- The uri of a public name looks like a private key, and its key differs from the private one in
the first sign only. -/
theorem key_eq_iff_disguised :
    let m : QualifiedName := ⟨⟨.public, "private$p::q"⟩, "r$s"⟩
    let n : QualifiedName := ⟨⟨.private, "p::q"⟩, "r$s"⟩
    ':' ∉ m.name.toList ∧ ':' ∉ n.name.toList ∧
      m.key = "$private$p::q::r$s" ∧ n.key = "private$p::q::r$s" ∧ m.key ≠ n.key := by
  intro m n
  have hm : ':' ∉ m.name.toList := by decide
  have hn : ':' ∉ n.name.toList := by decide
  refine ⟨hm, hn, by decide, by decide, fun same => ?_⟩
  have kind := ((QualifiedName.key_eq_iff hm hn).mp same).1
  cases kind

/-- A colon in a local name may stand for one in a uri. -/
example : QualifiedName.key ⟨⟨.public, "p"⟩, "q::r"⟩ = QualifiedName.key ⟨⟨.public, "p::q"⟩, "r"⟩ := by
  decide

end ClassLink
