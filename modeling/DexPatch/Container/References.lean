import DexPatch.Container.Basic
import DexPatch.Instruction.Operands

namespace DexPatch

/-!
# References between the parts of a container

Every number that points into a pool is a reference.  `mapRefs` renumbers all
references of a part and touches nothing else; the lists keep their order.
-/

/-- How references into each pool are renumbered. -/
abbrev RefMap := Pool → UInt32 → UInt32

mutual

/-- A value with its references renumbered. -/
def Value.mapRefs (f : RefMap) : Value → Value
  | .methodType index => .methodType (f .proto index)
  | .methodHandle index => .methodHandle (f .methodHandle index)
  | .string index => .string (f .string index)
  | .type index => .type (f .type index)
  | .field index => .field (f .field index)
  | .method index => .method (f .method index)
  | .enum index => .enum (f .field index)
  | .array items => .array (Value.mapRefsItems f items)
  | .annotated index elements => .annotated (f .type index) (Value.mapRefsElements f elements)
  | .byte value => .byte value
  | .short value => .short value
  | .char value => .char value
  | .int value => .int value
  | .long value => .long value
  | .float bits => .float bits
  | .double bits => .double bits
  | .null => .null
  | .boolean value => .boolean value

/-- A list of values with their references renumbered. -/
def Value.mapRefsItems (f : RefMap) : List Value → List Value
  | [] => []
  | item :: rest => item.mapRefs f :: Value.mapRefsItems f rest

/-- Named values with their references and their names renumbered. -/
def Value.mapRefsElements (f : RefMap) : List (UInt32 × Value) → List (UInt32 × Value)
  | [] => []
  | (name, value) :: rest => (f .string name, value.mapRefs f) :: Value.mapRefsElements f rest

end

namespace AnnotationItem

/-- An annotation with its references renumbered. -/
def mapRefs (f : RefMap) (item : AnnotationItem) : AnnotationItem :=
  { item with
    type := f .type item.type
    elements := Value.mapRefsElements f item.elements }

end AnnotationItem

/-- A set of annotations with its references renumbered. -/
def AnnotationSet.mapRefs (f : RefMap) (set : AnnotationSet) : AnnotationSet :=
  List.map (AnnotationItem.mapRefs f) set

/-- Annotations of a class and its members with their references renumbered. -/
def AnnotationDirectory.mapRefs (f : RefMap) (directory : AnnotationDirectory) :
    AnnotationDirectory :=
  let set := AnnotationSet.mapRefs f
  { ofClass := directory.ofClass.map set
    ofFields := directory.ofFields.map fun (field, annotations) => (f .field field, set annotations)
    ofMethods := directory.ofMethods.map fun (method, annotations) =>
      (f .method method, set annotations)
    ofParameters := directory.ofParameters.map fun (method, parameters) =>
      (f .method method, parameters.map (·.map set)) }

/-- A debug step with its references renumbered. -/
def DebugOp.mapRefs (f : RefMap) : DebugOp → DebugOp
  | .startLocal register name type =>
    .startLocal register (name.map (f .string)) (type.map (f .type))
  | .startLocalExtended register name type signature =>
    .startLocalExtended register (name.map (f .string)) (type.map (f .type))
      (signature.map (f .string))
  | .setFile name => .setFile (name.map (f .string))
  | .advancePc delta => .advancePc delta
  | .advanceLine delta => .advanceLine delta
  | .endLocal register => .endLocal register
  | .restartLocal register => .restartLocal register
  | .prologueEnd => .prologueEnd
  | .epilogueBegin => .epilogueBegin
  | .special opcode => .special opcode

/-- Debug information with its references renumbered. -/
def DebugInfo.mapRefs (f : RefMap) (debug : DebugInfo) : DebugInfo :=
  { debug with
    parameterNames := debug.parameterNames.map (·.map (f .string))
    ops := debug.ops.map (DebugOp.mapRefs f) }

/-- A handler with the types it catches renumbered. -/
def CatchHandler.mapRefs (f : RefMap) (handler : CatchHandler) : CatchHandler :=
  { handler with catches := handler.catches.map fun (type, address) => (f .type type, address) }

/-- A method body with its references renumbered. -/
def Body.mapRefs (f : RefMap) (body : Body) : Body :=
  { body with
    debug := body.debug.map (DebugInfo.mapRefs f)
    code := mapCodeOperands f body.code
    handlers := body.handlers.map (CatchHandler.mapRefs f) }

/-- A field of a class, renumbered. -/
def MemberField.mapRefs (f : RefMap) (member : MemberField) : MemberField :=
  { member with field := f .field member.field }

/-- A method of a class with its references renumbered. -/
def MemberMethod.mapRefs (f : RefMap) (member : MemberMethod) : MemberMethod :=
  { member with method := f .method member.method, body := member.body.map (Body.mapRefs f) }

/-- The members of a class with their references renumbered. -/
def ClassData.mapRefs (f : RefMap) (data : ClassData) : ClassData :=
  { staticFields := data.staticFields.map (MemberField.mapRefs f)
    instanceFields := data.instanceFields.map (MemberField.mapRefs f)
    directMethods := data.directMethods.map (MemberMethod.mapRefs f)
    virtualMethods := data.virtualMethods.map (MemberMethod.mapRefs f) }

/-- A class with its references renumbered. -/
def ClassDef.mapRefs (f : RefMap) (classDef : ClassDef) : ClassDef :=
  { type := f .type classDef.type
    access := classDef.access
    superclass := classDef.superclass.map (f .type)
    interfaces := classDef.interfaces.map (f .type)
    sourceFile := classDef.sourceFile.map (f .string)
    annotations := classDef.annotations.map (AnnotationDirectory.mapRefs f)
    data := classDef.data.map (ClassData.mapRefs f)
    staticValues := classDef.staticValues.map (Value.mapRefsItems f) }

/-- A prototype with its references renumbered. -/
def Proto.mapRefs (f : RefMap) (proto : Proto) : Proto :=
  { shorty := f .string proto.shorty
    returnType := f .type proto.returnType
    parameters := proto.parameters.map (f .type) }

/-- A field id with its references renumbered. -/
def FieldId.mapRefs (f : RefMap) (id : FieldId) : FieldId :=
  { declaringType := f .type id.declaringType
    type := f .type id.type
    name := f .string id.name }

/-- A method id with its references renumbered. -/
def MethodId.mapRefs (f : RefMap) (id : MethodId) : MethodId :=
  { declaringType := f .type id.declaringType
    proto := f .proto id.proto
    name := f .string id.name }

/-- The pool that a handle's target is in. -/
def MethodHandle.targetPool (handle : MethodHandle) : Pool :=
  if handle.targetsField then .field else .method

/-- A handle with its target renumbered. -/
def MethodHandle.mapRefs (f : RefMap) (handle : MethodHandle) : MethodHandle :=
  { handle with target := f handle.targetPool handle.target }

namespace Container

/-- A container with all references renumbered and its pools in their old order. -/
def mapRefs (f : RefMap) (container : Container) : Container :=
  { container with
    types := container.types.map (f .string)
    protos := container.protos.map (Proto.mapRefs f)
    fields := container.fields.map (FieldId.mapRefs f)
    methods := container.methods.map (MethodId.mapRefs f)
    classes := container.classes.map (ClassDef.mapRefs f)
    callSites := container.callSites.map (Value.mapRefsItems f)
    methodHandles := container.methodHandles.map (MethodHandle.mapRefs f) }

/-- The number of entries of a pool. -/
def poolSize (container : Container) : Pool → Nat
  | .string => container.strings.size
  | .type => container.types.size
  | .proto => container.protos.size
  | .field => container.fields.size
  | .method => container.methods.size
  | .callSite => container.callSites.length
  | .methodHandle => container.methodHandles.length
  | .methodHandleTarget => 0
  | .catchHandler => 0

end Container

end DexPatch
