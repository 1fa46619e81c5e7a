import ClassLink.Binding.Resolve
import ClassLink.Object.Delegation
/-!
# Verifying classes

Before its members are bound, a created class is checked: the shape of its base, the agreement
of template and constructor, the ends of both chains, and the native members that no holder
implements. Every finding goes into the report and, with the same content, to the diagnostics of
the domain. Strict linking fails on the first structural problem instead.
-/

namespace ClassLink

namespace Store

/-- What is wrong with the base of a class. -/
def baseProblems (s : Store) (c : ClassRef) : List StructuralProblem :=
  let k := s.classAt c
  match k.kind, k.base? with
  | .root, some b => [.rootHasBase (s.className b)]
  | .root, none => []
  | _, none => [.noBase]
  | _, some b => if b = c then [.ownBase] else []

/-- What is wrong with the template of a class. -/
def templateProblems (s : Store) (c : ClassRef) : List StructuralProblem :=
  let k := s.classAt c
  match k.constructor, k.template? with
  | none, _ => [.noConstructor]
  | some _, none => [.noTemplate]
  | some f, some t =>
    (if s.template f = some t then [] else [.templateDisagrees])
      ++ (if s.delegationEnds t then [] else [.cyclicDelegation])

/-- What is wrong with the structure of a class. -/
def structuralProblems (s : Store) (c : ClassRef) : List StructuralProblem :=
  s.baseProblems c ++ (if s.basesEnd c then [] else [.cyclicBases]) ++ s.templateProblems c

/-- The trait sets for which a host class declares no holders. The root class, whose holders
the others fall back on, is not asked. -/
def inheritedHolders (s : Store) (c : ClassRef) : List TraitSet :=
  let k := s.classAt c
  if k.isNative && k.kind ≠ .root then
    (if k.staticNatives.isInherited then [.static] else [])
      ++ (if k.instanceNatives.isInherited then [.instance] else [])
  else []

/-- The native members of a trait set that no holder implements. -/
def missingNatives (s : Store) (traits : List Trait) (holders : List ObjectRef) : List Trait :=
  traits.filter fun t => t.isNative && !t.isImplemented s holders

end Store

/-- Note that a native member of a set is missing, and report it by name. -/
def reportMissing (d : DomainRef) (className : String) (set : TraitSet) (t : Trait) :
    Action (TraitSet × String) := do
  emit d (.warning className (.missingNative t.name.display t.kind set))
  return (set, t.name.display)

/-- Check a class. -/
def verifyClass (d : DomainRef) (c : ClassRef) : Run Report := do
  let s ← get
  let k := s.classAt c
  let problems := s.structuralProblems c
  match (s.domain d).options.strict, problems with
  | true, p :: _ => throw (.breach (.structural k.name p))
  | _, _ =>
    for p in problems do
      emit d (.error k.name (.structural p))
    let inherited := s.inheritedHolders c
    for set in inherited do
      emit d (.warning k.name (.inheritedHolders set))
    let statics ← (s.missingNatives k.descriptor.staticTraits k.staticHolders).mapM
      fun t => (reportMissing d k.name .static t : Run _)
    let instances ← (s.missingNatives k.descriptor.instanceTraits k.instanceHolders).mapM
      fun t => (reportMissing d k.name .instance t : Run _)
    let report : Report := ⟨statics ++ instances, problems, inherited⟩
    log (.debug LogRecord.verifyTarget
      ("verified " ++ k.name ++ " (" ++ Numeral.decimal report.size ++ " finding(s))"))
    return report

end ClassLink
