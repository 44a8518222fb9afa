import DexPatch.Container.Names

namespace DexPatch

/-!
# The methods of a container

A method of a class is addressed by the position of its class, by the list it
is in and by its position there.  The declaration order is the order of these
keys: class by class, direct methods before virtual ones.
-/

/-- The two lists of methods that a class has. -/
inductive MethodKind where
  | direct
  | virtual
deriving DecidableEq, Repr, Inhabited

/-- The address of a method of a class. -/
structure MethodKey where
  classIndex : Nat
  kind : MethodKind
  position : Nat
deriving DecidableEq, Repr, Inhabited

/-- A method of a class with its names resolved. -/
structure MethodRecord where
  key : MethodKey
  method : UInt32
  declaringType : String
  name : String
  returnType : String
  parameterTypes : List String
  access : UInt32
  body : Option Body
deriving DecidableEq, Repr, Inhabited

namespace MethodRecord

/-- Is there a body to run? -/
def hasBody (record : MethodRecord) : Bool := record.body.isSome

/-- The number of registers that take the arguments. -/
def ins (record : MethodRecord) : Option UInt16 := record.body.map (·.ins)

/-- The method as it is written in listings. -/
def signature (record : MethodRecord) : String :=
  record.declaringType ++ "->" ++ record.name ++ "(" ++ String.join record.parameterTypes ++ ")" ++
    record.returnType

end MethodRecord

namespace ClassData

/-- The methods of one kind. -/
def methods (data : ClassData) : MethodKind → List MemberMethod
  | .direct => data.directMethods
  | .virtual => data.virtualMethods

/-- The class with the methods of one kind changed. -/
def mapMethods (data : ClassData) (kind : MethodKind)
    (change : List MemberMethod → List MemberMethod) : ClassData :=
  match kind with
  | .direct => { data with directMethods := change data.directMethods }
  | .virtual => { data with virtualMethods := change data.virtualMethods }

/-- The methods of a class, each with its key, in declaration order. -/
def keyedMethods (data : ClassData) (classIndex : Nat) : List (MethodKey × MemberMethod) :=
  let keyed (kind : MethodKind) : List (MethodKey × MemberMethod) :=
    (data.methods kind).zipIdx.map fun (method, position) =>
      ({ classIndex, kind, position }, method)
  keyed .direct ++ keyed .virtual

end ClassData

namespace Container

/-- All methods of all classes, each with its key, in declaration order. -/
def keyedMethods (container : Container) : List (MethodKey × MemberMethod) :=
  container.classes.zipIdx.flatMap fun (classDef, classIndex) =>
    match classDef.data with
    | none => []
    | some data => data.keyedMethods classIndex

/-- The record of a method of a class. -/
def recordOf (container : Container) (key : MethodKey) (method : MemberMethod) : MethodRecord :=
  let id := container.methods[method.method.toNat]?
  let proto := id.bind fun id => container.protos[id.proto.toNat]?
  { key
    method := method.method
    declaringType := match id with
      | some id => container.typeName id.declaringType
      | none => "<bad method>"
    name := match id with
      | some id => container.string id.name
      | none => "<bad method>"
    returnType := match proto with
      | some proto => container.typeName proto.returnType
      | none => "<bad proto>"
    parameterTypes := match proto with
      | some proto => proto.parameters.map container.typeName
      | none => []
    access := method.access
    body := method.body }

/-- The records of all methods, in declaration order. -/
def records (container : Container) : List MethodRecord :=
  container.keyedMethods.map fun (key, method) => container.recordOf key method

/-- The method at a key. -/
def method? (container : Container) (key : MethodKey) : Option MemberMethod :=
  match container.classes[key.classIndex]? with
  | none => none
  | some classDef =>
    match classDef.data with
    | none => none
    | some data => (data.methods key.kind)[key.position]?

/-- The record at a key. -/
def record? (container : Container) (key : MethodKey) : Option MethodRecord :=
  (container.method? key).map (container.recordOf key)

/-- The body at a key. -/
def body? (container : Container) (key : MethodKey) : Option Body :=
  (container.method? key).bind (·.body)

/-- The container with the method at a key changed; nothing changes if the key addresses no method. -/
def modifyMethod (container : Container) (key : MethodKey) (change : MemberMethod → MemberMethod) :
    Container :=
  { container with
    classes := container.classes.modify key.classIndex fun classDef =>
      { classDef with
        data := classDef.data.map fun data =>
          data.mapMethods key.kind (·.modify key.position change) } }

/-- The container with the body at a key replaced; nothing changes if the key addresses no method. -/
def setBody (container : Container) (key : MethodKey) (body : Option Body) : Container :=
  container.modifyMethod key fun method => { method with body }

end Container

end DexPatch
