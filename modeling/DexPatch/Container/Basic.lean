import DexPatch.Bytes
import DexPatch.Text.Modified

namespace DexPatch

/-!
# The container

A container holds everything an image says.  Five pools (strings, types,
prototypes, fields, methods) are numbered from zero, and all else refers to
their entries by number: into the string pool from everywhere, into the others
as the field names tell.  The order of a pool is free here; only an image
needs the canonical one.
-/

/-- A method's prototype. -/
structure Proto where
  /-- The string with one character per type, the return type first. -/
  shorty : UInt32
  returnType : UInt32
  parameters : List UInt32
deriving DecidableEq, Repr, Inhabited

/-- A field, named by its class, its type and a string. -/
structure FieldId where
  declaringType : UInt32
  type : UInt32
  name : UInt32
deriving DecidableEq, Repr, Inhabited

/-- A method, named by its class, its prototype and a string. -/
structure MethodId where
  declaringType : UInt32
  proto : UInt32
  name : UInt32
deriving DecidableEq, Repr, Inhabited

/-- A handle on a field or a method. -/
structure MethodHandle where
  kind : UInt16
  target : UInt32
deriving DecidableEq, Repr, Inhabited

/-- The four lowest kinds of handle get or set a field; all others invoke a method. -/
def MethodHandle.targetsField (handle : MethodHandle) : Bool := handle.kind.toNat ≤ 3

/-- A constant in annotations, initial values and call sites.  Floating-point numbers
are their bits; pool entries are their numbers. -/
inductive Value where
  | byte (value : Int8)
  | short (value : Int16)
  | char (value : UInt16)
  | int (value : Int32)
  | long (value : Int64)
  | float (bits : UInt32)
  | double (bits : UInt64)
  | methodType (proto : UInt32)
  | methodHandle (handle : UInt32)
  | string (string : UInt32)
  | type (type : UInt32)
  | field (field : UInt32)
  | method (method : UInt32)
  | enum (field : UInt32)
  | array (items : List Value)
  | annotated (type : UInt32) (elements : List (UInt32 × Value))
  | null
  | boolean (value : Bool)
deriving Repr, Inhabited

/-- An annotation: a type and named values. -/
structure AnnotationItem where
  visibility : UInt8
  type : UInt32
  elements : List (UInt32 × Value)
deriving Repr, Inhabited

/-- The annotations of one thing. -/
abbrev AnnotationSet := List AnnotationItem

/-- The annotations of a class, its members and its methods' parameters. -/
structure AnnotationDirectory where
  ofClass : Option AnnotationSet
  ofFields : List (UInt32 × AnnotationSet)
  ofMethods : List (UInt32 × AnnotationSet)
  ofParameters : List (UInt32 × List (Option AnnotationSet))
deriving Repr, Inhabited

/-- A step of the program that yields source positions and local variables. -/
inductive DebugOp where
  | advancePc (delta : UInt32)
  | advanceLine (delta : Int32)
  | startLocal (register : UInt32) (name type : Option UInt32)
  | startLocalExtended (register : UInt32) (name type signature : Option UInt32)
  | endLocal (register : UInt32)
  | restartLocal (register : UInt32)
  | prologueEnd
  | epilogueBegin
  | setFile (name : Option UInt32)
  | special (opcode : UInt8)
deriving DecidableEq, Repr, Inhabited

/-- The source positions and names of a method body. -/
structure DebugInfo where
  lineStart : UInt32
  parameterNames : List (Option UInt32)
  ops : List DebugOp
deriving DecidableEq, Repr, Inhabited

/-- What a try range does with exceptions: one address per type, and one for the rest. -/
structure CatchHandler where
  catches : List (UInt32 × UInt32)
  catchAll : Option UInt32
deriving DecidableEq, Repr, Inhabited

/-- A range of code units guarded by the handler at a position of the handler list. -/
structure TryRange where
  start : UInt32
  length : UInt16
  handler : Nat
deriving DecidableEq, Repr, Inhabited

/-- A method body. -/
structure Body where
  registers : UInt16
  ins : UInt16
  outs : UInt16
  debug : Option DebugInfo
  code : List UInt16
  tries : List TryRange
  handlers : List CatchHandler
deriving DecidableEq, Repr, Inhabited

/-- A field of a class. -/
structure MemberField where
  field : UInt32
  access : UInt32
deriving DecidableEq, Repr, Inhabited

/-- A method of a class; one without a body is abstract or native. -/
structure MemberMethod where
  method : UInt32
  access : UInt32
  body : Option Body
deriving DecidableEq, Repr, Inhabited

/-- The members of a class. -/
structure ClassData where
  staticFields : List MemberField
  instanceFields : List MemberField
  directMethods : List MemberMethod
  virtualMethods : List MemberMethod
deriving DecidableEq, Repr, Inhabited

/-- A class. -/
structure ClassDef where
  type : UInt32
  access : UInt32
  superclass : Option UInt32
  interfaces : List UInt32
  sourceFile : Option UInt32
  annotations : Option AnnotationDirectory
  data : Option ClassData
  /-- The initial values of the first static fields. -/
  staticValues : Option (List Value)
deriving Repr, Inhabited

/-- The three bytes that name the version of the format. -/
structure Version where
  first : UInt8
  second : UInt8
  third : UInt8
deriving DecidableEq, Repr, Inhabited

namespace Version

/-- The bytes in the order in which they are stored. -/
def bytes (version : Version) : List UInt8 := [version.first, version.second, version.third]

/-- The oldest version, `035`. -/
def oldest : Version := { first := 0x30, second := 0x33, third := 0x35 }

end Version

/-- Everything an image says. -/
structure Container where
  version : Version
  strings : Array PoolString
  types : Array UInt32
  protos : Array Proto
  fields : Array FieldId
  methods : Array MethodId
  classes : List ClassDef
  callSites : List (List Value)
  methodHandles : List MethodHandle
  /-- The hidden-API section, carried as it is. -/
  hiddenApi : Option Bytes
deriving Repr, Inhabited

namespace Container

/-- The container with nothing in it. -/
def empty : Container :=
  { version := .oldest, strings := #[], types := #[], protos := #[], fields := #[], methods := #[]
    classes := [], callSites := [], methodHandles := [], hiddenApi := none }

end Container

end DexPatch
