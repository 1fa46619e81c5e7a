/-!
# Qualified names

A declared member or class carries one namespace and one local name. Two texts are made from
the pair: the *key*, under which the member is installed on objects and classes are found in a
directory, and the *display*, which messages show. A name of the unnamed public namespace is
its own key, so that a property written by plain text and a public member meet.

    kind of namespace   key                     display
    public, no uri      name                    name
    public              $uri::name              uri::name
    any other           word$uri::name          word:uri::name
-/

namespace ClassLink

/-- The visibility a namespace stands for. -/
inductive NamespaceKind where
  /-- A package's public names; the unnamed package included. -/
  | «public»
  /-- Names shared inside one package. -/
  | packageInternal
  /-- Names visible in a class and the classes below it. -/
  | «protected»
  /-- The class-level half of the protected names. -/
  | staticProtected
  /-- Names of one class alone. -/
  | «private»
  /-- A namespace that the program declares itself. -/
  | explicit
deriving DecidableEq, Repr, Inhabited

/-- The word that opens a key; public names have none. -/
def NamespaceKind.word : NamespaceKind → String
  | .public => ""
  | .packageInternal => "internal"
  | .protected => "protected"
  | .staticProtected => "sprotected"
  | .private => "private"
  | .explicit => "ns"

/-- The name of a kind. -/
def NamespaceKind.label : NamespaceKind → String
  | .public => "Public"
  | .packageInternal => "PackageInternal"
  | .protected => "Protected"
  | .staticProtected => "StaticProtected"
  | .private => "Private"
  | .explicit => "Explicit"

/-- The kind of a name. -/
def NamespaceKind.ofLabel? (label : String) : Option NamespaceKind :=
  [NamespaceKind.public, .packageInternal, .protected, .staticProtected, .private,
    .explicit].find? (·.label = label)

/-- A visibility together with the text that tells namespaces of that visibility apart. -/
structure Namespace where
  kind : NamespaceKind
  uri : String
deriving DecidableEq, Repr, Inhabited

namespace Namespace

/-- The public namespace of the unnamed package. -/
def unnamed : Namespace := ⟨.public, ""⟩

/-- Public in some package, named or not. -/
def isPublic (n : Namespace) : Bool := n.kind == .public

/-- Public in the unnamed package. -/
def isUnnamed (n : Namespace) : Bool := n.isPublic && n.uri.isEmpty

/-- A public namespace shows its uri alone, any other its word first. -/
def display (n : Namespace) : String :=
  if n.isPublic then n.uri else n.kind.word ++ ":" ++ n.uri

/-- The key of a local name in this namespace. -/
def keyOf (n : Namespace) (name : String) : String :=
  if n.isUnnamed then name else n.kind.word ++ "$" ++ n.uri ++ "::" ++ name

theorem isUnnamed_iff (n : Namespace) : n.isUnnamed = true ↔ n = unnamed := by
  obtain ⟨kind, uri⟩ := n
  simp [isUnnamed, isPublic, unnamed]

end Namespace

/-- A namespace and a local name in it. -/
structure QualifiedName where
  space : Namespace
  name : String
deriving DecidableEq, Repr, Inhabited

namespace QualifiedName

/-- A name of the unnamed public namespace. -/
def plain (name : String) : QualifiedName := ⟨.unnamed, name⟩

/-- The text a member of this name is installed and found under. -/
def key (n : QualifiedName) : String := n.space.keyOf n.name

/-- The text messages show. -/
def display (n : QualifiedName) : String :=
  if n.space.isUnnamed then n.name else n.space.display ++ "::" ++ n.name

end QualifiedName

end ClassLink
