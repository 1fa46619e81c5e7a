import ClassLink.Descriptor
/-!
# Faults

Every failure of linking or of running a function is a cause with the data that describe it.
`Fault.message` is the one place where causes are put into words. Three families have causes of
their own: breaches of the order in which a class is constructed, values of the wrong type, and
malformed descriptors.
-/

namespace ClassLink

/-- An invariant of a finished class that does not hold. -/
inductive StructuralProblem where
  /-- The root class derives from another class. -/
  | rootHasBase (base : String)
  /-- A class other than the root derives from no class. -/
  | noBase
  | ownBase
  | cyclicBases
  | noConstructor
  | noTemplate
  /-- Instances would delegate to another object than the class's template. -/
  | templateDisagrees
  | cyclicDelegation
  /-- Found and described by the embedder. -/
  | described (text : String)
deriving DecidableEq, Repr

/-- The problem in words. -/
def StructuralProblem.message : StructuralProblem → String
  | .rootHasBase base => "root object class has base class " ++ base
  | .noBase => "has no base class"
  | .ownBase => "is its own base class"
  | .cyclicBases => "base class chain is cyclic"
  | .noConstructor => "has no instance constructor"
  | .noTemplate => "has no instance template"
  | .templateDisagrees => "instance template is not the constructor's template"
  | .cyclicDelegation => "delegation chain of the instance template is cyclic"
  | .described text => text

/-- A step of construction or a call that the state of a class does not allow. -/
inductive Breach where
  | alreadyConfigured (className : String)
  /-- The host constructor may not be given a template, and has none. -/
  | fixedTemplateMissing (className : String)
  | baseNotFinalized (base className : String)
  | constructorAlreadySet (className : String)
  | templatesAlreadySet (className : String)
  | noConstructor (className : String)
  | noTemplate (className : String)
  /-- A function keeps the template that the host gave it. -/
  | templateFixed (functionName : String)
  | notPassedThrough (className : String)
  | notCoercing (className : String)
  /-- Strict linking met a structural problem. -/
  | structural (className : String) (problem : StructuralProblem)
  /-- Described by a host function. -/
  | described (text : String)
deriving DecidableEq, Repr

/-- The breach in words. -/
def Breach.message : Breach → String
  | .alreadyConfigured c => c ++ " is already configured"
  | .fixedTemplateMissing c =>
    "host constructor of " ++ c ++ " has a fixed but missing template"
  | .baseNotFinalized base c => "base class " ++ base ++ " of " ++ c ++ " is not finalized"
  | .constructorAlreadySet c => c ++ ": constructor without initializer is already set"
  | .templatesAlreadySet c => c ++ ": templates are already set"
  | .noConstructor c => c ++ " has no constructor"
  | .noTemplate c => c ++ " has no instance template"
  | .templateFixed f => "template of " ++ f ++ " is host-fixed and cannot be replaced"
  | .notPassedThrough c =>
    c ++ " coerces when called; its constructor cannot be passed through"
  | .notCoercing c => c ++ " passes calls through to its constructor; it does not coerce"
  | .structural c problem => c ++ ": " ++ problem.message
  | .described text => text

/-- A value of the wrong type. -/
inductive Mismatch where
  /-- The value is outside the domain of a class. -/
  | uncoercible (typeName className : String)
  /-- A member of objects was called on something else. -/
  | badReceiver (member typeName : String)
  | notAClass
  | notAFunction
  | prototypeNotAnObject
  | digitsOutOfRange (digits : String)
  | badRadix (radix : String)
  /-- Described by a host function. -/
  | described (text : String)
deriving DecidableEq, Repr

/-- The mismatch in words. -/
def Mismatch.message : Mismatch → String
  | .uncoercible typeName className => "cannot coerce " ++ typeName ++ " to " ++ className
  | .badReceiver member typeName => member ++ " called on " ++ typeName
  | .notAClass => "prototype requested from a non-class object"
  | .notAFunction => "prototype of a non-function"
  | .prototypeNotAnObject => "prototype must be an object"
  | .digitsOutOfRange digits => "toFixed digits out of range: " ++ digits
  | .badRadix radix => "invalid radix: " ++ radix
  | .described text => text

/-- Why an operation failed. -/
inductive Fault where
  /-- A descriptor names a host class that is not registered. -/
  | missingNativeClass (id : String)
  /-- A host class is registered under an identifier in use. -/
  | duplicateNativeClass (id : String)
  | breach (cause : Breach)
  | mismatch (cause : Mismatch)
  /-- A native member without an implementation was called. -/
  | unresolvedNative (traitName className : String)
  /-- A host member is declared, but has no body. -/
  | notImplemented (what : String)
  | notConstructible (name : String)
  | descriptor (cause : DescriptorError)
  /-- An accessor ran into itself. -/
  | endlessCall (name : String)
deriving DecidableEq, Repr

/-- The name of the kind of failure. -/
def Fault.kind : Fault → String
  | .missingNativeClass _ => "MissingNativeClass"
  | .duplicateNativeClass _ => "DuplicateNativeClass"
  | .breach _ => "ContractViolation"
  | .mismatch _ => "TypeError"
  | .unresolvedNative .. => "UnresolvedNative"
  | .notImplemented _ => "NotImplemented"
  | .notConstructible _ => "NotConstructible"
  | .descriptor _ => "Descriptor"
  | .endlessCall _ => "EndlessCall"

/-- A failure that a host function reports: its kind, and a text that describes it or names what
it is about. -/
def Fault.reported? (kind text className : String) : Option Fault :=
  [Fault.missingNativeClass text, .duplicateNativeClass text, .breach (.described text),
    .mismatch (.described text), .unresolvedNative text className, .notImplemented text,
    .notConstructible text, .descriptor (.emptyNativeId text)].find? (·.kind = kind)

/-- The failure in words. -/
def Fault.message : Fault → String
  | .missingNativeClass id => "Missing native class: " ++ id
  | .duplicateNativeClass id => "Duplicate native class: " ++ id
  | .breach cause => "Contract violation: " ++ cause.message
  | .mismatch cause => "Type error: " ++ cause.message
  | .unresolvedNative traitName className =>
    "Unresolved native " ++ traitName ++ " in class " ++ className
  | .notImplemented what => "Not implemented: " ++ what
  | .notConstructible name => "Not a constructor: " ++ name
  | .descriptor cause => "Invalid class descriptor: " ++ cause.message
  | .endlessCall name => "Endless call: " ++ name

end ClassLink
