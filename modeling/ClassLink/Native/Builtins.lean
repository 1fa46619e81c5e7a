import ClassLink.Native.Definition
/-!
# The builtin classes

The host classes that every domain can link against. The classes of values coerce when they are
called; the others pass the call to their constructor. Members without a body are listed all the
same, so that looking them up succeeds; they fail when they are called.
-/

namespace ClassLink.Builtins

/-- The identifier of the root class. -/
def objectClassId : String := "ObjectClass"

/-- The identifier of the class of class objects. -/
def classClassId : String := "Class"

/-- The identifier of the class of functions. -/
def functionClassId : String := "FunctionClass"

/-! ### Shared holders -/

/-- The functions of mathematics, which the three number classes share. -/
def mathHolder : HolderDefinition :=
  (HolderDefinition.empty "Math")
    |>.method "abs" 1 (.math .abs)
    |>.method "ceil" 1 (.math .ceil)
    |>.method "floor" 1 (.math .floor)
    |>.method "sqrt" 1 (.math .sqrt)
    |>.method "round" 1 (.math .round)
    |>.method "pow" 2 (.math .pow)
    |>.method "max" 2 (.math .max)
    |>.method "min" 2 (.math .min)

/-- The instance members that the three number classes share. -/
def numberHolder : HolderDefinition :=
  (HolderDefinition.empty "Number.prototype")
    |>.method "toString" 1 .numberText
    |>.method "valueOf" 0 .numberValue
    |>.method "toFixed" 1 .numberFixed

/-- The instance members of texts. -/
def stringHolder : HolderDefinition :=
  (HolderDefinition.empty "String.prototype")
    |>.method "charAt" 1 .charAt
    |>.method "indexOf" 1 .indexOf
    |>.method "toUpperCase" 0 .toUpperCase
    |>.method "toLowerCase" 0 .toLowerCase

/-- The instance members of one kind of vectors. -/
def vectorHolder (label : String) : HolderDefinition :=
  (HolderDefinition.empty label)
    |>.unimplemented "push" 1
    |>.unimplemented "pop" 0
    |>.unimplemented "_reverse" 0
    |>.unimplemented "_spliceHelper" 4

/-- The class-level members of one kind of vectors. -/
def vectorStatics (label : String) : HolderDefinition :=
  (HolderDefinition.empty label)
    |>.unimplemented "_every" 3
    |>.unimplemented "_forEach" 3
    |>.unimplemented "_some" 3
    |>.unimplemented "_sort" 2

/-! ### The classes -/

/-- The root class. -/
def objectClass : NativeDefinition :=
  let prototype := (HolderDefinition.empty "Object.prototype")
    |>.method "hasOwnProperty" 1 .hasOwnProperty
    |>.method "propertyIsEnumerable" 1 .propertyIsEnumerable
    |>.method "isPrototypeOf" 1 .isPrototypeOf
    |>.method "setPropertyIsEnumerable" 2 (.setPropertyIsEnumerable "setPropertyIsEnumerable")
    |>.method "toString" 0 .describe
    |>.method "valueOf" 0 .receiver
  let statics := (HolderDefinition.empty "Object")
    |>.method "_hasOwnProperty" 2 (.onFirst .hasOwnProperty)
    |>.method "_propertyIsEnumerable" 2 (.onFirst .propertyIsEnumerable)
    |>.method "_setPropertyIsEnumerable" 3
        (.onFirst (.setPropertyIsEnumerable "_setPropertyIsEnumerable"))
    |>.method "_isPrototypeOf" 2 (.onFirst .isPrototypeOf)
    |>.method "_toString" 1 (.onFirst .describe)
  { NativeDefinition.bare objectClassId with
    constructor :=
      some ((ConstructorDefinition.builtin "Object" 1 .toObject).fixed.withPrototype prototype)
    statics := statics
    coercion := .object }

/-- The class of class objects. -/
def classClass : NativeDefinition :=
  let prototype := (HolderDefinition.empty "Class.prototype")
    |>.getter "asPrototype" .classPrototype
  { NativeDefinition.bare classClassId with
    constructor := some
      ((ConstructorDefinition.builtin "Class" 0 (.notConstructible "Class")).constructBy
        (.notConstructible "Class") |>.withPrototype prototype) }

/-- The class of functions. -/
def functionClass : NativeDefinition :=
  let prototype := (HolderDefinition.empty "Function.prototype")
    |>.getter "asPrototype" .functionPrototype
    |>.setter "asPrototype" .setFunctionPrototype
    |>.getter "length" .functionLength
    |>.unimplemented "call" 1
    |>.unimplemented "apply" 2
  { NativeDefinition.bare functionClassId with
    constructor := some
      (ConstructorDefinition.builtin "Function" 1 (.notImplemented "Function constructor")).fixed
    instanceNatives := .own [prototype] }

/-- The class of truths. -/
def booleanClass : NativeDefinition :=
  let prototype := (HolderDefinition.empty "Boolean.prototype")
    |>.method "toString" 0 .booleanText
    |>.method "valueOf" 0 .booleanValue
  { (NativeDefinition.bare "BooleanClass").coerceWith .boolean with
    constructor := some
      ((ConstructorDefinition.builtin "Boolean" 1 .toBoolean).constructBy .toBoolean
        |>.fixed |>.withPrototype prototype)
    defaultValue := .boolean false }

/-- The class of methods taken from their objects. -/
def methodClosureClass : NativeDefinition :=
  { NativeDefinition.bare "MethodClosureClass" with
    constructor := some
      (.builtin "MethodClosure" 0 (.notConstructible "MethodClosure")) }

/-- The class of namespaces. -/
def namespaceClass : NativeDefinition :=
  let prototype := (HolderDefinition.empty "Namespace.prototype")
    |>.getter "prefix" (.notImplemented "Namespace.prefix")
    |>.getter "uri" (.notImplemented "Namespace.uri")
  { NativeDefinition.bare "NamespaceClass" with
    constructor := some
      ((ConstructorDefinition.builtin "Namespace" 2 .receiver).withPrototype prototype) }

/-- The class of doubles. -/
def numberClass : NativeDefinition :=
  let statics := (HolderDefinition.empty "Number")
    |>.method "_numberToString" 2 (.onFirst .numberText)
    |>.unimplemented "_minValue" 0
    |>.unimplemented "_convert" 3
  { (NativeDefinition.bare "NumberClass").coerceWith .number with
    constructor := some
      ((ConstructorDefinition.builtin "Number" 1 .toNumber).constructBy .toNumber).fixed
    statics := statics
    staticNatives := .own [mathHolder]
    instanceNatives := .own [numberHolder]
    defaultValue := .number .zero }

/-- The class of signed integers. -/
def intClass : NativeDefinition :=
  { (NativeDefinition.bare "intClass").coerceWith .int with
    constructor := some
      ((ConstructorDefinition.builtin "int" 1 .toInt32).constructBy .toInt32)
    staticNatives := .own [mathHolder]
    instanceNatives := .own [numberHolder]
    defaultValue := .int 0 }

/-- The class of unsigned integers. -/
def uintClass : NativeDefinition :=
  { (NativeDefinition.bare "uintClass").coerceWith .uint with
    constructor := some
      ((ConstructorDefinition.builtin "uint" 1 .toUInt32).constructBy .toUInt32)
    staticNatives := .own [mathHolder]
    instanceNatives := .own [numberHolder]
    defaultValue := .uint 0 }

/-- The class of texts. -/
def stringClass : NativeDefinition :=
  let prototype := (HolderDefinition.empty "String.prototype")
    |>.getter "length" .stringLength
  let statics := (HolderDefinition.empty "String")
    |>.method "fromCharCode" 1 .fromCharCode
  { (NativeDefinition.bare "StringClass").coerceWith .string with
    constructor := some
      ((ConstructorDefinition.builtin "String" 1 .toText).constructBy .toText
        |>.fixed |>.withPrototype prototype)
    statics := statics
    instanceNatives := .own [stringHolder] }

/-- The class of arrays. -/
def arrayClass : NativeDefinition :=
  let prototype := (HolderDefinition.empty "Array.prototype")
    |>.getter "length" (.notImplemented "Array.length")
    |>.setter "length" (.notImplemented "Array.length")
    |>.unimplemented "push" 1
    |>.unimplemented "pop" 0
    |>.unimplemented "unshift" 1
  let statics := (HolderDefinition.empty "Array")
    |>.unimplemented "_pop" 1
    |>.unimplemented "_reverse" 1
    |>.unimplemented "_concat" 2
    |>.unimplemented "_shift" 1
    |>.unimplemented "_slice" 3
    |>.unimplemented "_splice" 2
  { NativeDefinition.bare "ArrayClass" with
    constructor :=
      some ((ConstructorDefinition.builtin "Array" 1 .receiver).fixed.withPrototype prototype)
    statics := statics }

/-- The class above the kinds of vectors. -/
def vectorClass : NativeDefinition :=
  { NativeDefinition.bare "VectorClass" with
    constructor := some (.builtin "Vector" 0 (.notConstructible "Vector")) }

/-- One kind of vectors. -/
def typedVectorClass (id name holder : String) : NativeDefinition :=
  { NativeDefinition.bare id with
    constructor := some (.builtin name 2 .receiver)
    statics := vectorStatics name
    instanceNatives := .own [vectorHolder holder] }

/-- The class of the data notation. -/
def jsonClass : NativeDefinition :=
  let statics := (HolderDefinition.empty "JSON")
    |>.unimplemented "parseCore" 1
    |>.unimplemented "stringifySpecializedToString" 4
  { NativeDefinition.bare "JSONClass" with
    constructor := some (.builtin "JSON" 0 (.notConstructible "JSON"))
    statics := statics }

/-- One of the classes of documents, which declare no holders. -/
def xmlClass (id name : String) : NativeDefinition :=
  { (NativeDefinition.bare id).inheritHolders with
    constructor := some (.builtin name 1 (.notImplemented name)) }

/-- Every builtin class. -/
def all : List NativeDefinition :=
  [objectClass, classClass, functionClass, booleanClass, methodClosureClass, namespaceClass,
    numberClass, intClass, uintClass, stringClass, arrayClass, vectorClass,
    typedVectorClass "ObjectVectorClass" "ObjectVector" "GenericVector",
    typedVectorClass "IntVectorClass" "IntVector" "Int32Vector",
    typedVectorClass "UIntVectorClass" "UIntVector" "Uint32Vector",
    typedVectorClass "DoubleVectorClass" "DoubleVector" "Float64Vector",
    jsonClass, xmlClass "XMLClass" "XML", xmlClass "XMLListClass" "XMLList",
    xmlClass "QNameClass" "QName"]

end ClassLink.Builtins
