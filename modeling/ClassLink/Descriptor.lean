import ClassLink.Trait
/-!
# Class descriptors

What the bytecode says of a class: its name, the host class that implements it if there is one,
its two sets of traits and its instance initializer. A descriptor is *valid* if its native
identifier is not empty and neither set declares one key twice with one kind.
-/

namespace ClassLink

/-- A class as declared. -/
structure ClassDescriptor where
  name : QualifiedName
  /-- The declared base class. -/
  superName : Option QualifiedName
  /-- The identifier of the host class that implements the class. -/
  nativeId : Option String
  staticTraits : List Trait
  instanceTraits : List Trait
  /-- The body of the instance constructor. -/
  instanceInit : Method
deriving DecidableEq, Repr, Inhabited

/-- What is wrong with a descriptor. -/
inductive DescriptorError where
  /-- A set declares a key twice with one kind. -/
  | duplicateTrait (name : String) (kind : MemberKind) (owner : String)
  /-- The class names a host class by the empty text. -/
  | emptyNativeId (owner : String)
deriving DecidableEq, Repr

/-- The text of the finding. -/
def DescriptorError.message : DescriptorError → String
  | .duplicateTrait name kind owner =>
    "Duplicate " ++ kind.word ++ " trait '" ++ name ++ "' in " ++ owner
  | .emptyNativeId owner => "Class " ++ owner ++ " declares an empty native identifier"

/-- What a set may not repeat: a key together with the word for a kind. -/
def Trait.label (t : Trait) : String × String := (t.key, t.kind.word)

/-- The first trait that repeats the label of an earlier one or a label already seen. -/
def firstRepeated? (seen : List (String × String)) : List Trait → Option Trait
  | [] => none
  | t :: ts => if t.label ∈ seen then some t else firstRepeated? (t.label :: seen) ts

namespace ClassDescriptor

/-- The name messages show. -/
def display (d : ClassDescriptor) : String := d.name.display

/-- No key is declared twice with one kind. -/
def checkUnique (d : ClassDescriptor) (traits : List Trait) : Except DescriptorError Unit :=
  match firstRepeated? [] traits with
  | some t => .error (.duplicateTrait t.name.display t.kind d.display)
  | none => .ok ()

/-- The native identifier is not empty. -/
def checkNativeId (d : ClassDescriptor) : Except DescriptorError Unit :=
  if d.nativeId = some "" then .error (.emptyNativeId d.display) else .ok ()

/-- A descriptor is checked for its native identifier, then its static traits, then its instance
traits; the first finding is reported. -/
def validate (d : ClassDescriptor) : Except DescriptorError Unit := do
  d.checkNativeId
  d.checkUnique d.staticTraits
  d.checkUnique d.instanceTraits

end ClassDescriptor

end ClassLink
