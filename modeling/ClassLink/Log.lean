import ClassLink.Class.Basic
import ClassLink.Text.Lines
/-!
# The log

Linking leaves records of what it does. Most are plain texts; the record of a finished class
lists the objects and functions wired to it, which have names only where the log is shown.
-/

namespace ClassLink

/-- How important a record is. -/
inductive LogLevel where
  | error
  | warn
  | debug
  | trace
deriving DecidableEq, Repr, Inhabited

/-- The name of a level. -/
def LogLevel.word : LogLevel → String
  | .error => "ERROR"
  | .warn => "WARN"
  | .debug => "DEBUG"
  | .trace => "TRACE"

/-- The wiring of a class at one moment. -/
structure ClassTrace where
  name : String
  base : Option String
  strategy : Option Strategy
  callStyle : CallStyle
  /-- The constructor and its name. -/
  constructor : Option (FunctionRef × String)
  /-- The constructor that skips native initializers, and its name. -/
  constructorNoInit : Option (FunctionRef × String)
  template : Option ObjectRef
  templateParent : Option ObjectRef
  delegate : Option ObjectRef
  delegateParent : Option ObjectRef
  constructorTemplate : Option ObjectRef
deriving DecidableEq, Repr, Inhabited

namespace ClassTrace

/-- The word for an optional part. -/
def optional {α : Type} (word : α → String) : Option α → String
  | some a => "Some(" ++ word a ++ ")"
  | none => "None"

/-- The functions of a trace in the order of its rows. -/
def functions (t : ClassTrace) : List FunctionRef :=
  [t.constructor, t.constructorNoInit].filterMap fun f => f.map (·.1)

/-- The objects of a trace in the order of its rows. -/
def objects (t : ClassTrace) : List ObjectRef :=
  [t.template, t.templateParent, t.delegate, t.delegateParent, t.constructorTemplate].filterMap
    id

/-- The rows of a trace, with the given names for objects and functions. -/
def rows (t : ClassTrace) (objectId : ObjectRef → String) (functionId : FunctionRef → String) :
    List String :=
  let object (o : Option ObjectRef) : String :=
    match o with
    | some o => "Object [#" ++ objectId o ++ "]"
    | none => "null"
  let function (f : Option (FunctionRef × String)) : String :=
    match f with
    | some (f, name) => "Function " ++ name ++ " [#" ++ functionId f ++ "]"
    | none => "null"
  ["Class: " ++ t.name ++ " \x7b",
    "  baseClass: " ++ t.base.getD "null",
    "  strategy: " ++ optional Strategy.word t.strategy,
    "  callableStyle: " ++ t.callStyle.word,
    "  instanceConstructor: " ++ function t.constructor,
    "  instanceConstructorNoInitialize: " ++ function t.constructorNoInit,
    "  traitsPrototype: " ++ object t.template,
    "  traitsPrototype.__proto__: " ++ object t.templateParent,
    "  dynamicPrototype: " ++ object t.delegate,
    "  dynamicPrototype.__proto__: " ++ object t.delegateParent,
    "  instanceConstructor.prototype: " ++ object t.constructorTemplate,
    "\x7d"]

/-- The lines that a trace takes when it is shown: a row whose names hold line ends takes more
than one. -/
def lines (t : ClassTrace) (objectId : ObjectRef → String) (functionId : FunctionRef → String) :
    List String :=
  (Text.lines ("\n".intercalate (t.rows objectId functionId)).toList).map String.ofList

end ClassTrace

/-- What a record says. -/
inductive LogContent where
  | text (s : String)
  | trace (t : ClassTrace)
deriving DecidableEq, Repr

/-- A record of the log. -/
structure LogRecord where
  level : LogLevel
  /-- The part of the linker that speaks. -/
  target : String
  content : LogContent
deriving DecidableEq, Repr

namespace LogRecord

/-- The target of records about linking. -/
def linkTarget : String := "kiln::link"

/-- The target of records about verification. -/
def verifyTarget : String := "kiln::verify"

/-- The target of records about host classes. -/
def nativesTarget : String := "kiln::natives"

/-- A record for those who search for a fault. -/
def debug (target message : String) : LogRecord := ⟨.debug, target, .text message⟩

end LogRecord

end ClassLink
