import ClassLink.Proofs.Execution
import Mathlib.Data.List.Nodup

/-!
# What an identifier means

A registry has two tables, and the builtin one comes first. It is installed once, perhaps after
extensions were registered, and one of them may have taken the identifier of a builtin class: what
that identifier means changes then. It is the last time. Once the builtin table is installed, a call
adds an extension under an identifier that neither table has, or leaves the registry as it is, so
every identifier keeps its meaning (`stable_of_install_mem`).
-/

namespace ClassLink

/-! ### Calls -/

/-- A call that may change a registry. -/
inductive RegistryCall where
  /-- Install the builtin table. -/
  | install
  /-- Register an embedder's definition. -/
  | register (definition : NativeDefinition)

namespace RegistryCall

/-- What a call answers, and the registry that it leaves. Installing answers whether the table was
not there before; a definition that is refused leaves the registry as it is. -/
def run : RegistryCall → NativeRegistry → Except Fault Bool × NativeRegistry
  | .install, r => (.ok (!r.installed), r.install)
  | .register d, r =>
    match r.register d with
    | .error e => (.error e, r)
    | .ok t => (.ok true, t)

end RegistryCall

namespace NativeRegistry

/-- The registry that calls leave, made one after the other. -/
def after (r : NativeRegistry) (calls : List RegistryCall) : NativeRegistry :=
  calls.foldl (fun t c => (c.run t).2) r

/-- The identifier is in the one table or the other. -/
def Knows (r : NativeRegistry) (id : String) : Prop :=
  id ∈ r.builtinIds ∨ id ∈ r.extensions.map (·.1)

variable {r t : NativeRegistry} {id : String} {d : NativeDefinition} {c : RegistryCall}

/-! ### One call -/

/-- An identifier means nothing exactly if no table has it. -/
theorem lookup_eq_none_iff : r.lookup id = none ↔ ¬r.Knows id := by
  have table : ∀ xs : List (String × NativeDefinition),
      xs.lookup id = none ↔ id ∉ xs.map (·.1) := by
    intro xs
    rw [List.lookup_eq_none_iff, List.mem_map]
    constructor
    · rintro none ⟨p, hp, rfl⟩
      simpa using none p hp
    · intro none p hp
      simpa using fun same => none ⟨p, hp, same.symm⟩
  rw [lookup, Option.or_eq_none_iff, table, table, Knows, not_or]
  rfl

theorem contains_iff : r.contains id = true ↔ r.Knows id := by
  rw [contains, Option.isSome_iff_ne_none, ne_eq, lookup_eq_none_iff, not_not]

/-- A definition is refused exactly if its identifier is known, and always for that reason. -/
theorem register_eq_error_iff {e : Fault} :
    r.register d = .error e ↔ r.Knows d.id ∧ e = .duplicateNativeClass d.id := by
  unfold register
  by_cases known : r.Knows d.id
  · rw [if_pos (contains_iff.mpr known)]
    simp [known, eq_comm]
  · rw [if_neg (mt contains_iff.mp known)]
    simp [known]

theorem register_of_new (new : ¬r.Knows d.id) :
    r.register d = .ok { r with extensions := (d.id, d) :: r.extensions } :=
  if_neg (mt contains_iff.mp new)

/-- A definition that is accepted is found under its identifier, and nothing else changes. -/
theorem lookup_of_register (h : r.register d = .ok t) (id : String) :
    t.lookup id = if id = d.id then some d else r.lookup id := by
  unfold register at h
  split at h
  · cases h
  · rename_i new
    obtain rfl := Except.ok.inj h
    have none := lookup_eq_none_iff.mpr (mt contains_iff.mpr new)
    rw [lookup, Option.or_eq_none_iff] at none
    unfold lookup
    split_ifs with same
    · subst same
      simp [none.1]
    · simp [List.lookup_cons, beq_eq_false_iff_ne.mpr same]

theorem run_error_iff {e : Fault} : (c.run r).1 = .error e ↔
    ∃ d, c = .register d ∧ r.register d = .error e := by
  cases c with
  | install => simp [RegistryCall.run]
  | register d => cases registered : r.register d <;> simp [RegistryCall.run, registered]

/-- A call that fails changes nothing. -/
theorem run_of_error {e : Fault} (h : (c.run r).1 = .error e) : (c.run r).2 = r := by
  obtain ⟨d, rfl, refused⟩ := run_error_iff.mp h
  simp [RegistryCall.run, refused]

/-- Installing the table again changes nothing. -/
theorem run_install (installed : r.installed = true) :
    RegistryCall.install.run r = (.ok false, r) := by
  simp [RegistryCall.run, install, installed]

/-- The builtin table is not installed by registering. -/
theorem register_builtins (h : r.register d = .ok t) :
    t.installed = r.installed ∧ t.builtins = r.builtins := by
  unfold register at h
  split at h
  · cases h
  · obtain rfl := Except.ok.inj h
    exact ⟨rfl, rfl⟩

theorem run_register_builtins :
    (((RegistryCall.register d).run r).2.installed = r.installed) ∧
      ((RegistryCall.register d).run r).2.builtins = r.builtins := by
  cases registered : r.register d with
  | error e => simp [RegistryCall.run, registered]
  | ok t => simpa [RegistryCall.run, registered] using register_builtins registered

/-- **A step.** Once the builtin table is installed, a call leaves the meaning of every identifier
that has one. -/
theorem lookup_run (installed : r.installed = true) (found : r.lookup id = some d) :
    ((c.run r).2).lookup id = some d := by
  cases c with
  | install => rwa [run_install installed]
  | register d' =>
    cases registered : r.register d' with
    | error e => simpa [RegistryCall.run, registered] using found
    | ok t =>
      have other : id ≠ d'.id := by
        rintro rfl
        have known : r.Knows d'.id := by
          by_contra unknown
          rw [lookup_eq_none_iff.mpr unknown] at found
          cases found
        rw [register_eq_error_iff.mpr ⟨known, rfl⟩] at registered
        cases registered
      simpa [RegistryCall.run, registered, lookup_of_register registered, other] using found

/-! ### The builtin table -/

/-- The builtin table. -/
def table : List (String × NativeDefinition) := Builtins.all.map fun d => (d.id, d)

/-- The builtin table is the whole one once it is installed, and empty before. -/
def Sound (r : NativeRegistry) : Prop := r.builtins = if r.installed then table else []

theorem Sound.empty : Sound .empty := rfl

theorem Sound.run (h : r.Sound) (c : RegistryCall) : (c.run r).2.Sound := by
  cases c with
  | install =>
    by_cases installed : r.installed = true
    · rwa [run_install installed]
    · simp only [RegistryCall.run, install, if_neg installed]
      rfl
  | register d =>
    obtain ⟨installed, builtins⟩ := run_register_builtins (r := r) (d := d)
    rw [Sound, installed, builtins]
    exact h

/-- No two builtin classes share an identifier. -/
theorem nodup_builtin_ids : (Builtins.all.map (·.id)).Nodup := by decide +kernel

/-- In a registry with the builtin table every builtin class is found under its identifier. -/
theorem Sound.lookup_builtin (h : r.Sound) (installed : r.installed = true)
    (builtin : d ∈ Builtins.all) : r.lookup d.id = some d := by
  obtain ⟨before, later, all⟩ := List.append_of_mem builtin
  have nodup := nodup_builtin_ids
  rw [all, List.map_append, List.nodup_append] at nodup
  have here : table.lookup d.id = some d := by
    rw [List.lookup_eq_some_iff]
    refine ⟨before.map fun d => (d.id, d), later.map fun d => (d.id, d), by simp [table, all], ?_⟩
    intro p hp
    obtain ⟨x, hx, rfl⟩ := List.mem_map.mp hp
    have ne := nodup.2.2 x.id (List.mem_map_of_mem hx) d.id List.mem_cons_self
    simpa using ne.symm
  rw [lookup, show r.builtins = table from h.trans (if_pos installed), here]
  rfl

/-! ### Runs -/

theorem Sound.after (h : r.Sound) (calls : List RegistryCall) : (r.after calls).Sound := by
  induction calls generalizing r with
  | nil => exact h
  | cons c cs ih => exact ih (h.run c)

theorem installed_install : r.install.installed = true := by
  unfold install
  split
  · assumption
  · rfl

/-- The builtin table stays installed. -/
theorem installed_run (installed : r.installed = true) (c : RegistryCall) :
    (c.run r).2.installed = true := by
  cases c with
  | install => rwa [run_install installed]
  | register d => rw [run_register_builtins.1, installed]

theorem installed_after (installed : r.installed = true) (calls : List RegistryCall) :
    (r.after calls).installed = true := by
  induction calls generalizing r with
  | nil => exact installed
  | cons c cs ih => exact ih (installed_run installed c)

theorem installed_after_of_mem {calls : List RegistryCall} (ran : .install ∈ calls) :
    (r.after calls).installed = true := by
  induction calls generalizing r with
  | nil => exact absurd ran List.not_mem_nil
  | cons c cs ih =>
    rcases List.mem_cons.mp ran with rfl | later
    · exact installed_after installed_install cs
    · exact ih later

/-- Once the builtin table is installed, every identifier keeps its meaning. -/
theorem lookup_after (installed : r.installed = true) (calls : List RegistryCall)
    (found : r.lookup id = some d) : (r.after calls).lookup id = some d := by
  induction calls generalizing r with
  | nil => exact found
  | cons c cs ih => exact ih (installed_run installed c) (lookup_run installed found)

/-- The meanings of `r` are those of `t`, which has the builtin table, and `t` refuses the
identifiers that it knows and nothing else. -/
structure Stable (r t : NativeRegistry) : Prop where
  kept : ∀ id d, r.lookup id = some d → t.lookup id = some d
  builtin : ∀ d ∈ Builtins.all, t.lookup d.id = some d
  refuses : ∀ d e, ((RegistryCall.register d).run t).1 = .error e ↔
    t.Knows d.id ∧ e = .duplicateNativeClass d.id
  accepts : ∀ d, ¬t.Knows d.id → ∃ u, (RegistryCall.register d).run t = (.ok true, u) ∧
    ∀ id, u.lookup id = if id = d.id then some d else t.lookup id
  failed : ∀ c e, (RegistryCall.run c t).1 = .error e → (RegistryCall.run c t).2 = t
  again : RegistryCall.install.run t = (.ok false, t)

/-- **Meanings are stable.** Let the builtin table be installed among some calls, before or after
extensions are registered. Whatever calls follow, an identifier keeps its meaning, and that of a
builtin class is the builtin one; only known identifiers are refused, and neither a call that fails
nor installing again changes anything. -/
theorem stable_of_install_mem {before : List RegistryCall} (ran : .install ∈ before)
    (later : List RegistryCall) :
    (NativeRegistry.empty.after before).Stable
      ((NativeRegistry.empty.after before).after later) := by
  have installed : (NativeRegistry.empty.after before).installed = true :=
    installed_after_of_mem ran
  have sound := (Sound.empty.after before).after later
  have installed' := installed_after installed later
  generalize NativeRegistry.empty.after before = r at *
  refine ⟨fun id d => lookup_after installed later,
    fun d => sound.lookup_builtin installed', fun d e => ?_, fun d new => ?_,
    fun c e => run_of_error, run_install installed'⟩
  · rw [run_error_iff, ← register_eq_error_iff]
    constructor
    · rintro ⟨_, ⟨⟩, refused⟩
      exact refused
    · exact fun refused => ⟨d, rfl, refused⟩
  · have accepted := register_of_new new
    refine ⟨_, ?_, lookup_of_register accepted⟩
    simp [RegistryCall.run, accepted]

end NativeRegistry

/-! ### A builtin identifier that was taken -/

namespace Sample

/-- An embedder's definition under the identifier of the root class. -/
def impostor : NativeDefinition := .bare Builtins.objectClassId

end Sample

/-- The identifier of the root class has the embedder's meaning until the builtin table is
installed, and the builtin one from then on. -/
theorem stable_of_install_mem_impostor :
    (NativeRegistry.empty.after [.register Sample.impostor]).lookup Builtins.objectClassId =
        some Sample.impostor ∧
      (let r := NativeRegistry.empty.after [.register Sample.impostor, .install]
       r.lookup Builtins.objectClassId = some Builtins.objectClass ∧
        r.Stable (r.after [.register Sample.impostor, .install, .register (.bare "Foo")])) := by
  have ran : RegistryCall.install ∈ [.register Sample.impostor, .install] := by simp
  exact ⟨rfl, rfl, NativeRegistry.stable_of_install_mem ran
    [.register Sample.impostor, .install, .register (.bare "Foo")]⟩

end ClassLink
