import DexPatch.Image.Handlers
import DexPatch.Renumber.Arranged

namespace DexPatch

/-!
# Which containers have an image

An image can hold a container if every reference that is written leads to an
entry, every reference written in 16 bits leads to one of the first 65536,
all code splits into instructions, and every try range has a handler that a
16-bit offset reaches.  The checks run in the order in which an image is laid
out, so the first fault in that order is the one reported.
-/

/-- A reference written in as many bits as it needs. -/
def Reference.long (pool : Pool) (index : UInt32) : Reference := { pool, index, short := false }

/-- A reference written in 16 bits. -/
def Reference.brief (pool : Pool) (index : UInt32) : Reference := { pool, index, short := true }

/-- A reference with the number it gets. -/
def Reference.renumber (renumber : RefMap) (ref : Reference) : Reference :=
  { ref with index := renumber ref.pool ref.index }

/-- References that may be absent. -/
def Reference.longs (pool : Pool) (indices : List (Option UInt32)) : List Reference :=
  (indices.filterMap id).map (Reference.long pool)

mutual

/-- The references of a value, in the order in which they are resolved: those of an annotation
are its names, its type, and then what its elements refer to. -/
def Value.refs : Value → List Reference
  | .methodType index => [.long .proto index]
  | .methodHandle index => [.long .methodHandle index]
  | .string index => [.long .string index]
  | .type index => [.long .type index]
  | .field index => [.long .field index]
  | .method index => [.long .method index]
  | .enum index => [.long .field index]
  | .array items => Value.refsItems items
  | .annotated index elements =>
    let parts := Value.refsElements elements
    parts.map (fun (name, _) => .long .string name) ++ .long .type index ::
      (sortOn (·.1) parts).flatMap (·.2)
  | .byte _ => []
  | .short _ => []
  | .char _ => []
  | .int _ => []
  | .long _ => []
  | .float _ => []
  | .double _ => []
  | .null => []
  | .boolean _ => []

/-- The references of a list of values. -/
def Value.refsItems : List Value → List Reference
  | [] => []
  | item :: rest => item.refs ++ Value.refsItems rest

/-- The names of named values, each with the references of its value. -/
def Value.refsElements : List (UInt32 × Value) → List (UInt32 × List Reference)
  | [] => []
  | (name, value) :: rest => (name, value.refs) :: Value.refsElements rest

end

/-- The references of an annotation. -/
def AnnotationItem.refs (item : AnnotationItem) : List Reference :=
  .long .type item.type :: (Value.annotated item.type item.elements).refs

/-- The members that a directory annotates. -/
def AnnotationDirectory.memberRefs (directory : AnnotationDirectory) : List Reference :=
  directory.ofFields.map (fun (field, _) => .long .field field) ++
    directory.ofMethods.map (fun (method, _) => .long .method method) ++
    directory.ofParameters.map (fun (method, _) => .long .method method)

/-- The references of all annotations of a directory. -/
def AnnotationDirectory.annotationRefs (directory : AnnotationDirectory) : List Reference :=
  directory.membersArranged.sets.flatMap fun set => List.flatMap AnnotationItem.refs set

/-- The members of a class, as references. -/
def ClassData.memberRefs (data : ClassData) : List Reference :=
  (data.staticFields ++ data.instanceFields).map (fun member => .long .field member.field) ++
    (data.directMethods ++ data.virtualMethods).map (fun member => .long .method member.method)

/-- The references of a debug step. -/
def DebugOp.refs : DebugOp → List Reference
  | .startLocal _ name type => Reference.longs .string [name] ++ Reference.longs .type [type]
  | .startLocalExtended _ name type signature =>
    Reference.longs .string [name] ++ Reference.longs .type [type] ++ Reference.longs .string [signature]
  | .setFile name => Reference.longs .string [name]
  | _ => []

/-- The references of debug information. -/
def DebugInfo.refs (debug : DebugInfo) : List Reference :=
  Reference.longs .string debug.parameterNames ++ debug.ops.flatMap DebugOp.refs

/-- The types that handlers catch. -/
def CatchHandler.refs (handler : CatchHandler) : List Reference :=
  handler.catches.map fun (type, _) => .long .type type

/-- The references of a prototype, in the order in which sorting resolves them. -/
def Proto.refs (proto : Proto) : List Reference :=
  .long .string proto.shorty :: proto.parameters.map (.long .type) ++ [.long .type proto.returnType]

/-- The references of a field id, in the order in which sorting resolves them. -/
def FieldId.refs (id : FieldId) : List Reference :=
  [.long .type id.declaringType, .long .string id.name, .long .type id.type]

/-- The references of a method id, in the order in which sorting resolves them. -/
def MethodId.refs (id : MethodId) : List Reference :=
  [.long .type id.declaringType, .long .string id.name, .long .proto id.proto]

namespace Container

/-- All references inside the pools. -/
def poolRefs (container : Container) : List Reference :=
  container.types.toList.map (.long .string) ++ container.protos.toList.flatMap Proto.refs ++
    container.fields.toList.flatMap FieldId.refs ++ container.methods.toList.flatMap MethodId.refs

/-- Is there such an entry, and does its number fit? -/
def checkRef (container : Container) (ref : Reference) : Except EncodeError Unit :=
  if container.poolSize ref.pool ≤ ref.index.toNat then
    .error (.danglingIndex ref.pool ref.index)
  else if ref.short ∧ 65536 ≤ ref.index.toNat then
    .error (.indexOverflow ref.pool ref.index)
  else
    .ok ()

/-- Does every reference of a list lead to an entry, and does its number fit? -/
def checkRefs (container : Container) (refs : List Reference) : Except EncodeError Unit :=
  refs.forM container.checkRef

/-- Can the try range name its handler? -/
def checkTry (list : HandlerList) (range : TryRange) : Except EncodeError Unit :=
  match list.offsets[range.handler]? with
  | none => .error (.danglingIndex .catchHandler (UInt32.ofNat range.handler))
  | some offset =>
    if offset < 65536 then .ok () else .error (.handlerOffsetOverflow list.bytes.length)

/-- Can the code of a body and its handlers be written, once renumbered?  Handlers without a try
range are not written. -/
def checkBody (container : Container) (renumber : RefMap) (body : Body) :
    Except EncodeError Unit := do
  let parts := split body.code
  let operands := parts.instructions.flatMap poolOperands
  container.checkRefs (operands.map (Reference.renumber renumber))
  match parts.fault? with
  | some unit => throw (.malformedCode unit)
  | none => pure ()
  if !body.tries.isEmpty then
    let handlers := body.handlers.map (CatchHandler.mapRefs renumber)
    container.checkRefs (handlers.flatMap CatchHandler.refs)
    body.tries.forM (checkTry (.ofHandlers handlers))

/-- Can the target of a handle be written? -/
def checkHandle (container : Container) (handle : MethodHandle) : Except EncodeError Unit := do
  container.checkRef (.long handle.targetPool handle.target)
  if 65536 ≤ handle.target.toNat then
    throw (.indexOverflow .methodHandleTarget handle.target)

/-- The annotation directories of all classes that have one. -/
def directories (container : Container) : List AnnotationDirectory :=
  container.classes.filterMap (·.annotations)

/-- The members of all classes that have some. -/
def memberLists (container : Container) : List ClassData :=
  container.classes.filterMap (·.data)

/-- The bodies of a list of methods, in the order of the numbers that the methods get. -/
def bodiesOf (renumber : RefMap) (methods : List MemberMethod) : List Body :=
  (sortOn (fun member => renumber .method member.method) methods).filterMap (·.body)

/-- All bodies, in the order in which they are written. -/
def bodies (container : Container) (renumber : RefMap) : List Body :=
  container.memberLists.flatMap fun data =>
    bodiesOf renumber data.directMethods ++ bodiesOf renumber data.virtualMethods

/-- Can a container whose pool entries refer to each other properly be written with its
references renumbered?  An operand in code is checked as the number it gets and not as the 16 bits
it is stored in, where a number too large for them would no longer be seen. -/
def check (container : Container) (renumbering : Renumbering) : Except EncodeError Unit := do
  let numbered := container.renumbered renumbering
  let bodies := container.bodies renumbering.map
  numbered.checkRefs <|
    (numbered.protos.toList.flatMap (·.parameters)).map (.brief .type) ++
      (numbered.classes.flatMap (·.interfaces)).map (.brief .type)
  numbered.checkRefs (numbered.directories.flatMap (·.memberRefs))
  numbered.checkRefs (numbered.directories.flatMap (·.annotationRefs))
  numbered.checkRefs (numbered.memberLists.flatMap (·.memberRefs))
  numbered.checkRefs <| bodies.flatMap fun body =>
    (body.debug.map fun debug => (debug.mapRefs renumbering.map).refs).getD []
  bodies.forM (numbered.checkBody renumbering.map)
  numbered.checkRefs (numbered.callSites.flatMap Value.refsItems)
  numbered.checkRefs (numbered.classes.flatMap fun classDef =>
    Value.refsItems (classDef.staticValues.getD []))
  numbered.checkRefs <| numbered.fields.toList.flatMap fun id =>
    [.brief .type id.declaringType, .brief .type id.type]
  numbered.checkRefs <| numbered.methods.toList.flatMap fun id =>
    [.brief .type id.declaringType, .brief .proto id.proto]
  numbered.checkRefs <| numbered.classes.flatMap fun classDef =>
    .long .type classDef.type ::
      Reference.longs .type [classDef.superclass] ++ Reference.longs .string [classDef.sourceFile]
  numbered.methodHandles.forM numbered.checkHandle

end Container

end DexPatch
