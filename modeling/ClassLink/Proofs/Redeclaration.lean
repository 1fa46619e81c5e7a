import ClassLink.Proofs.DeclaredMembers
import Mathlib.Data.Finset.Card

/-!
# Members that are declared again

A table is built from any list of members, also from one that declares a member more than once. The
declarations of a member then share one entry: the first says where it stands, the last says what it
is. So there are as many entries as there are different members, each stands behind as many as were
declared before it was for the first time, and each has the name and the binding of its last
declaration, which was bound after all those before it (`BindingContext.boundAfter`).

A member is looked up in the index, which says where its entry stands, and what stands there is
taken without asking whose entry it is. This is sound since the index and the entries agree after
every declaration. -/

namespace ClassLink

namespace Bindings

variable {es old : List BindingEntry} {id : String × MemberKind}

/-- Writing entries over others adds their identities and loses none. -/
theorem mem_ids_foldl_overlay :
    id ∈ ids (es.foldl overlay old) ↔ id ∈ ids old ∨ id ∈ ids es := by
  induction es generalizing old with
  | nil => simp [ids]
  | cons e es ih =>
    have first : id ∈ ids (overlay old e) ↔ id ∈ ids old ∨ id = e.id := by
      rw [ids_overlay]
      split
      · rename_i there
        exact ⟨.inl, fun h => h.elim (fun mem => mem) fun same => same ▸ there⟩
      · rw [List.mem_append, List.mem_singleton]
    have rest : id ∈ ids (e :: es) ↔ id = e.id ∨ id ∈ ids es := List.mem_cons
    rw [List.foldl_cons, ih, first, rest, or_assoc]

end Bindings

/-- The index of a table gives a place for an identity exactly if an entry of this identity stands
there. -/
theorem BindingTable.Coherent.lookup_index_iff {t : BindingTable} (h : t.Coherent)
    {id : String × MemberKind} {i : Nat} :
    t.index.lookup id = some i ↔ ∃ inside : i < t.entries.length, t.entries[i].id = id := by
  have apart := List.pairwise_iff_getElem.mp (List.pairwise_map.mp h.nodup)
  rw [h.index, List.idxOf?_eq_some_iff]
  simp only [Bindings.ids, List.length_map, List.getElem_map]
  -- an entry of the same identity further in front would be a second one
  exact exists_congr fun inside => and_iff_left_of_imp fun same j lt again =>
    apart j i (lt.trans inside) inside lt (again.trans same.symm)

namespace BindingContext

variable (x : BindingContext) (make : Synthesis) (before after traits : List Trait) (t : Trait)
  (s : Store)

/-- What a member is bound to when those before it have been bound. -/
def boundAfter : Binding :=
  ((x.bind make ((x.buildBy make before).run s).1.slotCount t).run
    ((x.buildBy make before).run s).2).1

/-! ### Building by declarations -/

theorem id_entry_boundAfter : (x.entry t (x.boundAfter make before t s)).id = t.id :=
  x.id_entry_bind make t _ _

theorem mem_ids_build {id : String × MemberKind} :
    id ∈ Bindings.ids ((x.buildBy make traits).run s).1.entries ↔ id ∈ traits.map Trait.id := by
  obtain ⟨-, es, entries, made⟩ := x.foldlM_add_overlays make traits x.coherent_start s
  rw [show ((x.buildBy make traits).run s).1.entries = es.foldl Bindings.overlay [] from entries,
    Bindings.mem_ids_foldl_overlay, ids_of_isMade made]
  exact or_iff_right List.not_mem_nil

/-- A table has as many entries as different members are declared. -/
theorem length_entries_build :
    ((x.buildBy make traits).run s).1.entries.length = (traits.map Trait.id).toFinset.card := by
  have same : (traits.map Trait.id).toFinset =
      (Bindings.ids ((x.buildBy make traits).run s).1.entries).toFinset := by
    ext id
    rw [List.mem_toFinset, List.mem_toFinset, mem_ids_build]
  have nodup : (Bindings.ids ((x.buildBy make traits).run s).1.entries).Nodup :=
    (x.coherent_buildBy make traits s).nodup
  rw [same, List.toFinset_card_of_nodup nodup, Bindings.ids, List.length_map]

/-- A declaration is written over the table of those before it, and those after it over that. -/
theorem entries_build_append_cons :
    ∃ es, Bindings.ids es = after.map Trait.id ∧
      ((x.buildBy make (before ++ t :: after)).run s).1.entries =
        es.foldl Bindings.overlay (Bindings.overlay ((x.buildBy make before).run s).1.entries
          (x.entry t (x.boundAfter make before t s))) := by
  let table := (before.foldlM (x.add make) x.start).run s
  let next := (x.add make table.1 t).run table.2
  have run : ((before ++ t :: after).foldlM (x.add make) x.start).run s =
      (after.foldlM (x.add make) next.1).run next.2 := by
    rw [List.foldlM_append, run_bind, List.foldlM_cons, run_bind]
  have coherent : table.1.Coherent := x.coherent_buildBy make before s
  obtain ⟨coherent', entries, -⟩ := x.add_overlays make t table.2 coherent
  obtain ⟨-, es, rest, made⟩ := x.foldlM_add_overlays make after coherent' next.2
  refine ⟨es, ids_of_isMade made, ?_⟩
  show (((before ++ t :: after).foldlM (x.add make) x.start).run s).1.entries = _
  rw [run]
  exact rest.trans (congrArg (es.foldl Bindings.overlay) entries)

/-- The first declaration says where the entry stands. -/
theorem getElem?_ids_build (first : t.id ∉ before.map Trait.id) :
    (Bindings.ids ((x.buildBy make (before ++ t :: after)).run s).1.entries)[
      (before.map Trait.id).toFinset.card]? = some t.id := by
  obtain ⟨es, -, entries⟩ := x.entries_build_append_cons make before after t s
  have id := x.id_entry_boundAfter make before t s
  have new : (x.entry t (x.boundAfter make before t s)).id ∉
      Bindings.ids ((x.buildBy make before).run s).1.entries := by
    rw [id, mem_ids_build]
    exact first
  rw [Bindings.overlay_of_notMem new] at entries
  obtain ⟨rest, listed⟩ := Bindings.ids_prefix_foldl_overlay es
    (((x.buildBy make before).run s).1.entries ++ [x.entry t (x.boundAfter make before t s)])
  rw [entries, ← listed, ← x.length_entries_build make before s, Bindings.ids, List.map_append,
    List.append_assoc, List.getElem?_append_right (by rw [List.length_map]), List.length_map,
    Nat.sub_self]
  exact congrArg some id

/-- The last declaration says what the entry is. -/
theorem mem_entries_build (last : t.id ∉ after.map Trait.id) :
    x.entry t (x.boundAfter make before t s) ∈
      ((x.buildBy make (before ++ t :: after)).run s).1.entries := by
  obtain ⟨es, ids, entries⟩ := x.entries_build_append_cons make before after t s
  rw [entries]
  refine Bindings.mem_foldl_overlay_of_notMem (Bindings.mem_overlay_self ..) ?_
  rw [ids, id_entry_boundAfter]
  exact last

/-- **Declaring a member again.** A table is built from any list of members, with any tables further
up and with whatever makes functions of bytecode. Its index gives a place for a key with a kind
exactly if an entry of that key and kind stands there. It has one entry for each key with a kind
that is declared and no others. An entry stands behind as many as there are different members before
its first declaration, and it has the name, the native mark and the binding of its last one. -/
theorem indexed_build (x : BindingContext) (make : Synthesis) (traits : List Trait) (s : Store) :
    let b := ((x.buildBy make traits).run s).1
    (∀ key kind i, b.own.index.lookup (key, kind) = some i ↔
      ∃ inside : i < b.entries.length, b.entries[i].key = key ∧ b.entries[i].kind = kind) ∧
    (Bindings.ids b.entries).Nodup ∧
    (∀ id, id ∈ Bindings.ids b.entries ↔ id ∈ traits.map Trait.id) ∧
    (∀ before t after, traits = before ++ t :: after → t.id ∉ before.map Trait.id →
      (Bindings.ids b.entries)[(before.map Trait.id).toFinset.card]? = some t.id) ∧
    ∀ before t after, traits = before ++ t :: after → t.id ∉ after.map Trait.id →
      ∃ e ∈ b.entries, b.IsEntryOf t e ∧ e.native = t.isNative ∧
        e.binding = x.boundAfter make before t s := by
  intro b
  have coherent : b.own.Coherent := x.coherent_buildBy make traits s
  refine ⟨fun key kind i => ?_, coherent.nodup, fun _ => x.mem_ids_build make traits s, ?_, ?_⟩
  · rw [coherent.lookup_index_iff]
    exact exists_congr fun _ => Prod.ext_iff
  · rintro before t after rfl first
    exact x.getElem?_ids_build make before after t s first
  · rintro before t after rfl last
    have mem := x.mem_entries_build make before after t s last
    have kind : (x.boundAfter make before t s).kind = t.kind := x.kind_bind make t _ _
    exact ⟨_, mem, ⟨rfl, kind, rfl, kind ▸ coherent.lookup_of_mem mem⟩, rfl, rfl⟩

end BindingContext

/-! ### Two names of one key -/

namespace Sample

/-- The colons belong to the local name. The next name has the same key. -/
def longName : QualifiedName := ⟨⟨.public, "p"⟩, "q::r"⟩

/-- The colons belong to the uri. -/
def longUri : QualifiedName := ⟨⟨.public, "p::q"⟩, "r"⟩

end Sample

/-- A method of bytecode is declared again as a native one of another name, which has the same key
and which no holder implements: it keeps the first place, before the getter, and is bound to a stub
of the other name, made after both functions. -/
theorem indexed_build_renamed :
    let x := Sample.tableContext "Renamed" (some (Sample.chain [Sample.methodK 9] []))
    let first : Trait := ⟨Sample.longName, .method (.bytecode 1 none 0)⟩
    let again : Trait := ⟨Sample.longUri, .method (.native 2 none 0)⟩
    let traits := [first, Sample.getterK 3, again]
    let b := ((x.build traits).run Sample.opened).1
    (Bindings.ids b.entries)[0]? = some ("$p::q::r", .method) ∧
      (∃ e ∈ b.entries, b.IsEntryOf again e ∧ e.native = true ∧
        e.binding = x.boundAfter (synthesize ⟨0⟩) [first, Sample.getterK 3] again Sample.opened) ∧
      b.entries = [⟨"$p::q::r", Sample.longUri, .method ⟨2⟩, true, false⟩,
        ⟨"k", .plain "k", .getter ⟨1⟩, false, false⟩] ∧
      b.own.index = [(("$p::q::r", .method), 0), (("k", .getter), 1)] := by
  intro x first again traits b
  obtain ⟨-, -, -, places, contents⟩ := x.indexed_build (synthesize ⟨0⟩) traits Sample.opened
  refine ⟨places [] first [Sample.getterK 3, again] rfl (by decide),
    contents [first, Sample.getterK 3] again [] rfl (by decide), ?_, ?_⟩ <;> decide +kernel

end ClassLink
