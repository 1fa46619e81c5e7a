import ClassLink.Proofs.Fulfilling
import ClassLink.Proofs.Requests

/-!
# Unrelated classes are linked in either order

What a link comes to is told by few parts of the store, and the link of a class that is neither the
root nor the class of class objects writes only one of them: what is found under its own key. A
slot without a constant may start with what is found under the key of its type. If no slot of a
class starts so with the other class, and none of the other with it, then each of the two comes to
the same whether it is linked first or second, and the domain is told and counts the same.
-/

namespace ClassLink

variable {s t : Store} {cs : List ClassRef} {d : DomainRef} {descriptor : ClassDescriptor}
  {base : Option ClassRef}

/-! ### Terms that agree -/

/-- Two terms in which these members are bound alike. -/
structure Terms.Agree (y z : Terms) (traits : List Trait) : Prop where
  suppliers : z.suppliers = y.suppliers
  above : z.above = y.above
  initial : ∀ m ∈ traits, ∀ slot, m.declaration = .slot slot → z.initial slot = y.initial slot
  given : ∀ m f, Trait.supply? m y.suppliers = some (.given f) → z.isStub f = y.isStub f

namespace Terms.Agree

variable {y z : Terms} {traits : List Trait}

theorem slot?_eq (h : y.Agree z traits) (used : UInt32) {m : Trait} (hm : m ∈ traits) :
    z.slot? used m = y.slot? used m := by
  unfold slot?
  cases declared : m.declaration with
  | slot slot => simp only [h.initial m hm slot declared]
  | _ => rfl

theorem stubs_eq (h : y.Agree z traits) (m : Trait) : z.stubs m = y.stubs m := by
  unfold stubs
  rw [h.suppliers]
  cases supply : m.supply? y.suppliers with
  | none => rfl
  | some from_ =>
    cases from_ with
    | made => rfl
    | given f => exact congrArg (m.isNative && ·) (h.given m f supply)

theorem members_eq (h : y.Agree z traits) (used : UInt32) :
    z.members used traits = y.members used traits := by
  suffices all : ∀ ms, (∀ m ∈ ms, m ∈ traits) → ∀ used, z.members used ms = y.members used ms from
    all traits (fun _ hm => hm) used
  intro ms
  induction ms with
  | nil => exact fun _ _ => rfl
  | cons m ms ih =>
    intro sub used
    have first : z.member used m = y.member used m := by
      unfold member
      rw [h.slot?_eq used (sub m List.mem_cons_self), h.stubs_eq, h.above]
    rw [members, members, first, ih fun x hx => sub x (List.mem_cons_of_mem _ hx)]

theorem ids_eq (h : y.Agree z traits) : z.ids traits = y.ids traits := by
  rw [ids, ids, h.above]

theorem keys_eq (h : y.Agree z traits) : z.keys traits = y.keys traits := by
  rw [keys, keys, h.ids_eq]

theorem outline_eq (h : y.Agree z traits) : z.outline traits = y.outline traits := by
  rw [outline, outline, h.above, h.members_eq]

end Terms.Agree

/-! ### Stores that agree on a class -/

/-- Two stores that agree on everything by which it is told what linking a class comes to. -/
structure Store.AgreeOn (s t : Store) (d : DomainRef) (descriptor : ClassDescriptor)
    (base : Option ClassRef) : Prop where
  natives : t.natives = s.natives
  options : (t.domain d).options = (s.domain d).options
  shared : t.shared? d = s.shared? d
  terms : ∀ set, (s.terms d descriptor base set).Agree (t.terms d descriptor base set)
    (descriptor.traits set)

namespace Store.AgreeOn

theorem host?_eq (h : s.AgreeOn t d descriptor base) : t.host? descriptor = s.host? descriptor := by
  rw [host?, host?, h.natives]

theorem lacking_eq (h : s.AgreeOn t d descriptor base) (set : TraitSet) :
    t.lacking descriptor set = s.lacking descriptor set := by
  rw [lacking, lacking, h.host?_eq]

/-- What is wrong with the base is that there is none. -/
theorem misplaced?_eq (s t : Store) (ordinary : descriptor.IsOrdinary) :
    t.misplaced? descriptor base = s.misplaced? descriptor base := by
  rw [misplaced?, misplaced?, if_neg ordinary.1, if_neg ordinary.1]

theorem linkFault?_eq (h : s.AgreeOn t d descriptor base) (ordinary : descriptor.IsOrdinary) :
    t.linkFault? d descriptor base = s.linkFault? d descriptor base := by
  unfold linkFault? missingHost?
  rw [h.natives, h.options, misplaced?_eq s t ordinary]

/-- What is found on the class, in both forms. -/
theorem found_eq (h : s.AgreeOn t d descriptor base) (ordinary : descriptor.IsOrdinary) :
    t.expectedReport descriptor base = s.expectedReport descriptor base ∧
      t.expectedFindings descriptor base = s.expectedFindings descriptor base := by
  unfold expectedReport expectedFindings undeclaredHolders
  rw [h.host?_eq, misplaced?_eq s t ordinary, h.lacking_eq, h.lacking_eq]
  exact ⟨rfl, rfl⟩

theorem ownKeys_eq (h : s.AgreeOn t d descriptor base) :
    t.ownKeys d descriptor base = s.ownKeys d descriptor base := by
  have keys : (t.terms d descriptor base .static).keys descriptor.staticTraits =
      (s.terms d descriptor base .static).keys descriptor.staticTraits := (h.terms .static).keys_eq
  rw [ownKeys, ownKeys, h.host?_eq, keys]

theorem forecast_eq (h : s.AgreeOn t d descriptor base) (ordinary : descriptor.IsOrdinary) :
    t.forecast d descriptor base = s.forecast d descriptor base := by
  have statics : (t.terms d descriptor base .static).outline descriptor.staticTraits =
      (s.terms d descriptor base .static).outline descriptor.staticTraits :=
    (h.terms .static).outline_eq
  have instances : (t.terms d descriptor base .instance).outline descriptor.instanceTraits =
      (s.terms d descriptor base .instance).outline descriptor.instanceTraits :=
    (h.terms .instance).outline_eq
  have keys : (t.terms d descriptor base .instance).keys descriptor.instanceTraits =
      (s.terms d descriptor base .instance).keys descriptor.instanceTraits :=
    (h.terms .instance).keys_eq
  rw [forecast, forecast, h.options, (h.found_eq ordinary).1, statics, instances, h.shared,
    h.ownKeys_eq, h.host?_eq, keys]

theorem expected_eq (h : s.AgreeOn t d descriptor base) (ordinary : descriptor.IsOrdinary) :
    t.expected d descriptor base = s.expected d descriptor base := by
  rw [expected, expected, h.linkFault?_eq ordinary, h.forecast_eq ordinary]

theorem told_eq (h : s.AgreeOn t d descriptor base) (ordinary : descriptor.IsOrdinary) :
    t.told d descriptor base = s.told d descriptor base := by
  unfold told missingHost? saidFirst
  rw [h.natives, h.options, h.linkFault?_eq ordinary, (h.found_eq ordinary).2, h.host?_eq]

theorem counted_eq (h : s.AgreeOn t d descriptor base) (ordinary : descriptor.IsOrdinary) :
    t.counted d descriptor base = s.counted d descriptor base := by
  have counts : ∀ set, t.countsOf d descriptor base set = s.countsOf d descriptor base set :=
    fun set => by rw [countsOf, countsOf, (h.terms set).ids_eq, h.lacking_eq]
  have shared : t.sharedCounts d descriptor base = s.sharedCounts d descriptor base := by
    rw [sharedCounts, sharedCounts, h.shared, h.ownKeys_eq]
  rw [counted, counted, h.linkFault?_eq ordinary, counts, counts, shared]

end Store.AgreeOn

/-! ### What a link leaves to others -/

/-- The directory once a link came to this. -/
def Directory.after (x : Directory) (key : String) : Except Fault ClassRef → Directory
  | .ok c => x.add key c
  | .error _ => x

namespace Directory.Sound

variable {x : Directory} {key : String}

theorem after (h : x.Sound) (key : String) (r : Except Fault ClassRef) : (x.after key r).Sound := by
  cases r with
  | ok c => exact h.add key c
  | error e => exact h

/-- Under its own key a class is found that was linked, and otherwise what was found before. -/
theorem find?_after_self (h : x.Sound) (key : String) (r : Except Fault ClassRef) :
    (x.after key r).find? key = r.toOption.or (x.find? key) := by
  cases r with
  | ok c => exact (h.find?_add ..).trans (if_pos rfl)
  | error e => rfl

/-- Under any other key is found what was found before. -/
theorem find?_after_ne (h : x.Sound) {name : String} (ne : name ≠ key)
    (r : Except Fault ClassRef) : (x.after key r).find? name = x.find? name := by
  cases r with
  | ok c => exact (h.find?_add ..).trans (if_neg ne)
  | error e => rfl

end Directory.Sound

theorem Directory.size_after (x : Directory) (key : String) (r : Except Fault ClassRef) :
    (x.after key r).size = x.size + r.toOption.toList.length := by
  cases r with
  | ok c => exact List.length_append
  | error e => rfl

/-- What the link of a class leaves that is neither the root nor the class of class objects. -/
structure Store.Leaves (s t : Store) (d : DomainRef) (key : String) (r : Except Fault ClassRef) :
    Prop extends s.KeepsFilled t where
  natives : t.natives = s.natives
  options : (t.domain d).options = (s.domain d).options
  classOfClasses : (t.domain d).classOfClasses = (s.domain d).classOfClasses
  directory : (t.domain d).directory = (s.domain d).directory.after key r

theorem LinkStages.leaves {scope : Scope} {c : ClassRef} {x : LinkTrace}
    (h : LinkStages d descriptor base scope s t c x) (lt : d.index < s.domains.size)
    (linking : Linking s cs) (ordinary : descriptor.IsOrdinary) :
    s.Leaves t d descriptor.name.key (.ok c) := by
  have domain := h.domain lt
  have key : (t.classAt c).key = descriptor.name.key := by
    rw [Class.key, h.classAt lt, h.created.classAt]
    exact congrArg (·.name.key) h.begun.prepared.descriptor
  refine ⟨⟨h.keeps lt, fun o inside => ?_⟩, h.announced.natives.trans (h.confined_bound lt).natives,
    by rw [domain]; rfl, ?_, ?_⟩
  · refine h.properties_of_not_shared lt inside fun b r given => ?_
    rw [h.sharing?_ordinary lt linking ordinary] at given
    obtain ⟨_, _, same⟩ := Option.map_eq_some_iff.mp given
    rintro rfl
    rw [← (Prod.mk.inj same).2] at inside
    exact inside.not_ge h.begun.prepared.parts.object.1
  · rw [domain]
    exact if_neg fun kind => ClassKind.noConfusion ((h.kind_eq_ordinary lt ordinary).symm.trans kind)
  · rw [domain, ← key]
    rfl

theorem leaves_of_link (linking : Linking s cs) (lt : d.index < s.domains.size)
    (ordinary : descriptor.IsOrdinary) (base : Option ClassRef) (scope : Scope) :
    s.Leaves (exec (link d descriptor base scope) s).2 d descriptor.name.key
      (exec (link d descriptor base scope) s).1 := by
  rcases run : exec (link d descriptor base scope) s with ⟨e | c, t⟩
  · have confined := confined_of_failed_link lt run
    have settings := confined.settings d
    exact ⟨⟨confined.keeps_of_beyond, fun o inside => confined.properties o inside inside.not_ge⟩,
      confined.natives, by rw [settings], by rw [settings], by rw [settings]; rfl⟩
  · obtain ⟨x, stages⟩ := linkStages_of_link lt run
    exact stages.leaves lt linking ordinary

/-- A slot of the class without a constant has a type of this key. -/
def ClassDescriptor.ReliesOn (x : ClassDescriptor) (key : String) : Prop :=
  ∃ set, ∃ m ∈ x.traits set, ∃ slot name, m.declaration = .slot slot ∧ slot.initial = none ∧
    slot.typeName = some name ∧ name.key = key

/-- A class that is neither the root nor the class of class objects, over none or a class that was
linked; the values of its host class, if it has one, refer to functions that exist. -/
structure ClassDescriptor.Links (x : ClassDescriptor) (base : Option ClassRef) (s : Store)
    (cs : List ClassRef) : Prop where
  ordinary : x.IsOrdinary
  old : ∀ b, base = some b → b ∈ cs
  closed : s.HostClosed x

namespace Store.Leaves

variable {key : String} {r : Except Fault ClassRef}

/-- What is found under another key is found as before. -/
theorem find?_eq (h : s.Leaves t d key r) (directs : s.Directs cs d) {name : String}
    (ne : name ≠ key) :
    (t.domain d).directory.find? name = (s.domain d).directory.find? name := by
  rw [h.directory]
  exact directs.places.find?_after_ne ne r

/-- Stores agree on a class whose slots do not start with what was linked in between. -/
theorem agreeOn (h : s.Leaves t d key r) (linking : Linking s cs)
    (links : descriptor.Links base s cs) (free : ¬descriptor.ReliesOn key) :
    s.AgreeOn t d descriptor base := by
  have directs := linking.directs d
  have kept : ∀ c ∈ cs, t.classAt c = s.classAt c := fun c hc =>
    h.classAt c (linking.hierarchy.inside hc)
  have host : t.host? descriptor = s.host? descriptor := by rw [host?, host?, h.natives]
  refine ⟨h.natives, h.options, ?_, fun set => ⟨?_, ?_, fun m hm slot declared => ?_,
    fun m f given => ?_⟩⟩
  · rw [shared?, shared?, h.classOfClasses]
    cases held : (s.domain d).classOfClasses with
    | none => rfl
    | some m => rw [Option.bind_some, Option.bind_some, kept m (directs.classOfClasses_linked held)]
  · exact congrArg (suppliersOf · set) host
  · cases set with
    | static => rfl
    | «instance» =>
      cases base with
      | none => rfl
      | some b => exact congrArg Class.instanceBindings (kept b (links.old b rfl))
  · refine directs.slotInitial_eq linking.hierarchy h.toKeeps fun name typed initial => ?_
    exact h.find?_eq directs fun same =>
      free ⟨set, m, hm, slot, name, declared, initial, typed, same⟩
  · exact congrArg Function.isUnresolved (h.function f (links.closed.inside given))

theorem links (h : s.Leaves t d key r) {ds : List ClassRef} (sub : ∀ c ∈ cs, c ∈ ds)
    (links : descriptor.Links base s cs) : descriptor.Links base t ds := by
  refine ⟨links.ordinary, fun b hb => sub b (links.old b hb), fun id definition named found => ?_⟩
  rw [h.natives] at found
  intro holder hh m hm f body
  exact (links.closed id definition named found holder hh m hm f body).trans_le h.functions_le

end Store.Leaves

/-! ### Two links -/

namespace LinkRequest

/-- Neither of two classes starts a slot with the other, and they are found under different keys. -/
structure Unrelated (x y : LinkRequest) : Prop where
  keys : x.key ≠ y.key
  left : ¬x.descriptor.ReliesOn y.key
  right : ¬y.descriptor.ReliesOn x.key

end LinkRequest

/-- What two links come to, and the store that they leave. -/
structure TwoLinks where
  first : Except Fault ClassRef
  second : Except Fault ClassRef
  final : Store

/-- Link one class and then another one, whether the first link succeeds or not. -/
def linkBoth (d : DomainRef) (x y : LinkRequest) (s : Store) : TwoLinks :=
  ⟨(x.run d s).1, (y.run d (x.run d s).2).1, (y.run d (x.run d s).2).2⟩

/-- Both links come to what is expected of each in the store before. -/
structure Store.FulfilsBoth (s : Store) (d : DomainRef) (x y : LinkRequest) (r : TwoLinks) :
    Prop where
  kept : s.KeepsFilled r.final
  first : r.first.map r.final.outline = s.expected d x.descriptor x.base
  second : r.second.map r.final.outline = s.expected d y.descriptor y.base
  directory : (r.final.domain d).directory =
    ((s.domain d).directory.after x.key r.first).after y.key r.second
  diagnostics : (r.final.domain d).diagnostics = (s.domain d).diagnostics ++
    (s.told d x.descriptor x.base ++ s.told d y.descriptor y.base)
  stats : (r.final.domain d).stats = (s.domain d).stats +
    (s.counted d x.descriptor x.base + s.counted d y.descriptor y.base)

/-- Linking goes on in the store that a link leaves, whatever the link came to. -/
theorem Linking.run (linking : Linking s cs) (lt : d.index < s.domains.size) {x : LinkRequest}
    (old : ∀ b, x.base = some b → b ∈ cs) :
    ∃ ds, Linking (x.run d s).2 ds ∧ ∀ c ∈ cs, c ∈ ds := by
  rcases run : x.run d s with ⟨e | c, t⟩
  · exact ⟨cs, linking.failed lt old run, fun _ hc => hc⟩
  · exact ⟨c :: cs, linking.linked lt old run, fun _ hc => List.mem_cons_of_mem _ hc⟩

section
variable {x y : LinkRequest}

theorem fulfilsBoth_linkBoth (linking : Linking s cs) (lt : d.index < s.domains.size)
    (hx : x.descriptor.Links x.base s cs) (hy : y.descriptor.Links y.base s cs)
    (free : ¬y.descriptor.ReliesOn x.key) : s.FulfilsBoth d x y (linkBoth d x y s) := by
  -- the second link starts in a store that agrees with the first one on its class
  have leaves₁ := leaves_of_link linking lt hx.ordinary x.base x.scope
  have fulfils₁ := fulfils_link linking lt hx.old hx.closed hx.ordinary x.scope
  have agree := leaves₁.agreeOn linking hy free
  obtain ⟨ds, linking₁, sub⟩ := linking.run lt hx.old
  have lt₁ : d.index < (x.run d s).2.domains.size := lt.trans_le leaves₁.domains_le
  have hy₁ := leaves₁.links sub hy
  have leaves₂ := leaves_of_link linking₁ lt₁ hy₁.ordinary y.base y.scope
  have fulfils₂ := fulfils_link linking₁ lt₁ hy₁.old hy₁.closed hy₁.ordinary y.scope
  refine ⟨leaves₁.toKeepsFilled.trans leaves₂.toKeepsFilled,
    fulfils₁.outcome _ leaves₂.toKeepsFilled, ?_, ?_, ?_, ?_⟩
  · exact (fulfils₂.outcome _ (.refl _)).trans (agree.expected_eq hy.ordinary)
  · refine leaves₂.directory.trans ?_
    rw [LinkRequest.run, leaves₁.directory]
    rfl
  · refine fulfils₂.diagnostics.trans ?_
    rw [LinkRequest.run, fulfils₁.diagnostics, agree.told_eq hy.ordinary, List.append_assoc]
  · refine fulfils₂.stats.trans ?_
    rw [LinkRequest.run, fulfils₁.stats, agree.counted_eq hy.ordinary, add_assoc]

/-! ### Either order -/

/-- Two links came to `r` in one order and to `r'` in the other: a class of the one order, and the
class that takes its place in the other. -/
inductive Counterpart (cs : List ClassRef) (r r' : TwoLinks) : ClassRef → ClassRef → Prop
  | old {c : ClassRef} : c ∈ cs → Counterpart cs r r' c c
  | first {a a' : ClassRef} : r.first = .ok a → r'.second = .ok a' → Counterpart cs r r' a a'
  | second {a a' : ClassRef} : r.second = .ok a → r'.first = .ok a' → Counterpart cs r r' a a'

/-- Two links come to the same in either order, up to the places that are given out. -/
structure Store.AlikeInEitherOrder (s : Store) (cs : List ClassRef) (d : DomainRef)
    (r r' : TwoLinks) : Prop where
  /-- Each link comes to the same fault, or to a class that looks the same in the end. -/
  first : r.first.map r.final.outline = r'.second.map r'.final.outline
  second : r.second.map r.final.outline = r'.first.map r'.final.outline
  /-- Classes that were linked before are left alone. -/
  kept : s.KeepsFilled r.final ∧ s.KeepsFilled r'.final
  found : ∀ key, Option.Rel (Counterpart cs r r') ((r.final.domain d).directory.find? key)
    ((r'.final.domain d).directory.find? key)
  size : (r.final.domain d).directory.size = (r'.final.domain d).directory.size
  stats : (r.final.domain d).stats = (r'.final.domain d).stats
  diagnostics : (r.final.domain d).diagnostics.Perm (r'.final.domain d).diagnostics

section
variable {α : Type} {r r' : Except Fault ClassRef} {f g : ClassRef → α}

/-- If two links come to the same, both succeed or none. -/
theorem length_toOption_of_map_eq (same : r.map f = r'.map g) :
    r.toOption.toList.length = r'.toOption.toList.length := by
  cases r <;> cases r' <;> first | rfl | cases same

/-- And then the classes take each other's place, or what was found before is found. -/
theorem rel_or_of_map_eq {q : ClassRef → ClassRef → Prop} (same : r.map f = r'.map g)
    {before : Option ClassRef} (old : Option.Rel q before before)
    (new : ∀ a a', r = .ok a → r' = .ok a' → q a a') :
    Option.Rel q (r.toOption.or before) (r'.toOption.or before) := by
  cases r <;> cases r'
  · exact old
  · cases same
  · cases same
  · exact .some (new _ _ rfl rfl)

end

/-- **Unrelated classes are linked in either order.** In a store reached by linking, two classes
neither of which is the root or the class of class objects, which are found under different keys
and start no slot with each other, come to the same whichever is linked first. -/
theorem linkBoth_swap (linking : Linking s cs) (lt : d.index < s.domains.size)
    (hx : x.descriptor.Links x.base s cs) (hy : y.descriptor.Links y.base s cs)
    (unrelated : x.Unrelated y) :
    s.AlikeInEitherOrder cs d (linkBoth d x y s) (linkBoth d y x s) := by
  have h := fulfilsBoth_linkBoth linking lt hx hy unrelated.right
  have h' := fulfilsBoth_linkBoth linking lt hy hx unrelated.left
  generalize linkBoth d x y s = r at h
  generalize linkBoth d y x s = r' at h'
  have directs := linking.directs d
  have sound := directs.places
  have after : ∀ key r, ((s.domain d).directory.after key r).Sound := sound.after
  have first := h.first.trans h'.second.symm
  have second := h.second.trans h'.first.symm
  have old : ∀ key, Option.Rel (Counterpart cs r r') ((s.domain d).directory.find? key)
      ((s.domain d).directory.find? key) := fun key => by
    cases found : (s.domain d).directory.find? key with
    | none => exact .none
    | some c => exact .some (.old (directs.linked c (Directory.mem_of_find? found)))
  refine ⟨first, second, ⟨h.kept, h'.kept⟩, fun key => ?_, ?_, ?_, ?_⟩
  · rw [h.directory, h'.directory]
    by_cases hkx : key = x.key
    · subst hkx
      rw [(after _ _).find?_after_ne unrelated.keys, sound.find?_after_self,
        (after _ _).find?_after_self, sound.find?_after_ne unrelated.keys]
      exact rel_or_of_map_eq first (old _) fun _ _ => .first
    · rw [(after y.key r'.first).find?_after_ne hkx]
      by_cases hky : key = y.key
      · subst hky
        rw [(after _ _).find?_after_self, sound.find?_after_ne hkx, sound.find?_after_self]
        exact rel_or_of_map_eq second (old _) fun _ _ => .second
      · rw [(after _ _).find?_after_ne hky, sound.find?_after_ne hkx,
          sound.find?_after_ne hky]
        exact old key
  · rw [h.directory, h'.directory, Directory.size_after, Directory.size_after,
      Directory.size_after, Directory.size_after, length_toOption_of_map_eq first,
      length_toOption_of_map_eq second, Nat.add_right_comm]
  · rw [h.stats, h'.stats, add_comm (s.counted d x.descriptor x.base)]
  · rw [h.diagnostics, h'.diagnostics]
    exact List.perm_append_comm.append_left _

end

/-! ### Two classes next to a third -/

namespace Sample

/-- A class over the first one, with a slot of its type. -/
def left : LinkRequest where
  descriptor :=
    { ClassDescriptor.bare "Left" with
      instanceTraits := [⟨.plain "origin", .slot ⟨0, some (.plain "Base"), none, false⟩⟩] }
  base := some ⟨0⟩
  scope := .global ⟨0⟩

/-- A class over none. -/
def right : LinkRequest := ⟨.bare "Right", none, .global ⟨0⟩⟩

theorem links_left : left.descriptor.Links left.base one [⟨0⟩] :=
  ⟨⟨by decide, by decide⟩, fun _ hb => Option.some.inj hb ▸ List.mem_singleton.mpr rfl,
    fun _ _ named => by cases named⟩

theorem links_right : right.descriptor.Links right.base one [⟨0⟩] :=
  ⟨⟨by decide, by decide⟩, nofun, fun _ _ named => by cases named⟩

theorem unrelated_left_right : left.Unrelated right := by
  refine ⟨by decide, ?_, ?_⟩
  · rintro ⟨set, m, hm, slot, name, declared, _, typed, same⟩
    cases set with
    | static => cases hm
    | «instance» =>
      obtain rfl := List.mem_singleton.mp hm
      cases declared
      obtain rfl := Option.some.inj typed
      exact absurd same (by decide)
  · rintro ⟨set, m, hm, _⟩
    cases set <;> cases hm

end Sample

/-- The classes are given other places in either order, and come to the same. -/
theorem linkBoth_swap_left_right :
    Linking Sample.one [⟨0⟩] ∧
      Sample.one.AlikeInEitherOrder [⟨0⟩] ⟨0⟩
        (linkBoth ⟨0⟩ Sample.left Sample.right Sample.one)
        (linkBoth ⟨0⟩ Sample.right Sample.left Sample.one) ∧
      (linkBoth ⟨0⟩ Sample.left Sample.right Sample.one).first.toOption = some ⟨1⟩ ∧
      (linkBoth ⟨0⟩ Sample.right Sample.left Sample.one).second.toOption = some ⟨2⟩ :=
  ⟨Sample.linking_one,
    linkBoth_swap Sample.linking_one (by decide +kernel) Sample.links_left Sample.links_right
      Sample.unrelated_left_right,
    by decide +kernel, by decide +kernel⟩

end ClassLink
