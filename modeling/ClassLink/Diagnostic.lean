import ClassLink.Fault
/-!
# Diagnostics

What linking finds and does not fail for. A domain keeps its diagnostics in the order in which
they were found.
-/

namespace ClassLink

/-- How bad a finding is. -/
inductive Severity where
  /-- Suspicious but harmless. -/
  | warning
  /-- A broken invariant that is tolerated. -/
  | error
deriving DecidableEq, Repr, Inhabited

/-- The name of a severity. -/
def Severity.word : Severity → String
  | .warning => "Warning"
  | .error => "Error"

/-- What was found of a class. -/
inductive Finding where
  /-- No holder implements a native member. -/
  | missingNative (traitName : String) (kind : MemberKind) (set : TraitSet)
  /-- The class keeps its host constructor; the one offered is not used. -/
  | ignoredConstructor
  /-- The class declares no holders of its own. -/
  | inheritedHolders (set : TraitSet)
  | structural (problem : StructuralProblem)
deriving DecidableEq, Repr

/-- The name of the kind of finding. -/
def Finding.kind : Finding → String
  | .missingNative .. => "MissingNativeTrait"
  | .ignoredConstructor => "IgnoredConstructor"
  | .inheritedHolders _ => "InheritedNativeHolders"
  | .structural _ => "Structural"

/-- A finding and the class it concerns. -/
structure Diagnostic where
  severity : Severity
  className : String
  finding : Finding
deriving DecidableEq, Repr

namespace Diagnostic

/-- A harmless finding. -/
def warning (className : String) (finding : Finding) : Diagnostic := ⟨.warning, className, finding⟩

/-- A tolerated breach. -/
def error (className : String) (finding : Finding) : Diagnostic := ⟨.error, className, finding⟩

/-- The finding in words. -/
def message (d : Diagnostic) : String :=
  match d.finding with
  | .missingNative traitName kind set =>
    "template is missing an implementation of the native " ++ set.word ++ " " ++ kind.word
      ++ ": " ++ traitName ++ " in class: " ++ d.className
  | .ignoredConstructor => "ignoring bytecode instance constructor of " ++ d.className
  | .inheritedHolders set =>
    "template " ++ d.className ++ " does not override its " ++ set.word ++ " natives"
  | .structural problem => d.className ++ ": " ++ problem.message

end Diagnostic

end ClassLink
