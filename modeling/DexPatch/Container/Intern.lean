import DexPatch.Container.Names

namespace DexPatch.Container

/-!
# Interning

To intern an entry is to find its number, appending the entry, and whatever
it refers to, where a pool does not have it yet.  No number given out before
changes its meaning.
-/

/-- The container with a string for the text, and the string's number. -/
def internString (container : Container) (text : String) : UInt32 × Container :=
  match container.findString? text with
  | some index => (index, container)
  | none =>
    (UInt32.ofNat container.strings.size,
      { container with strings := container.strings.push (PoolString.ofText text) })

/-- The container with a type for the descriptor, and the type's number. -/
def internType (container : Container) (descriptor : String) : UInt32 × Container :=
  let (string, container) := container.internString descriptor
  match container.types.findIdx? (· == string) with
  | some index => (UInt32.ofNat index, container)
  | none =>
    (UInt32.ofNat container.types.size, { container with types := container.types.push string })

/-- The container with types for the descriptors, and the types' numbers. -/
def internTypes (container : Container) : List String → List UInt32 × Container
  | [] => ([], container)
  | descriptor :: rest =>
    let (type, container) := container.internType descriptor
    let (types, container) := container.internTypes rest
    (type :: types, container)

/-- The value of the first byte of a character in UTF-8. -/
def leadByte (c : Char) : Nat :=
  let n := c.toNat
  if n < 0x80 then n
  else if n < 0x800 then 0xc0 + n / 64
  else if n < 0x10000 then 0xe0 + n / 4096
  else 0xf0 + n / 262144

/-- The character that stands for a descriptor in a shorty: the same for all references, and
the first byte of any other descriptor. -/
def shortyChar (descriptor : String) : Char :=
  match descriptor.toList with
  | [] => 'V'
  | c :: _ => if c = '[' ∨ c = 'L' then 'L' else Char.ofNat (leadByte c)

/-- The shorty of a prototype. -/
def shorty (returnType : String) (parameters : List String) : String :=
  String.ofList ((returnType :: parameters).map shortyChar)

/-- The container with a prototype, and the prototype's number. -/
def internProto (container : Container) (returnType : String) (parameters : List String) :
    UInt32 × Container :=
  let (returnIndex, container) := container.internType returnType
  let (parameterIndices, container) := container.internTypes parameters
  match container.protos.findIdx? fun proto =>
      proto.returnType == returnIndex && proto.parameters == parameterIndices with
  | some index => (UInt32.ofNat index, container)
  | none =>
    let (shortyIndex, container) := container.internString (shorty returnType parameters)
    (UInt32.ofNat container.protos.size,
      { container with
        protos := container.protos.push
          { shorty := shortyIndex, returnType := returnIndex, parameters := parameterIndices } })

/-- The container with a field, and the field's number. -/
def internField (container : Container) (declaringType name type : String) :
    UInt32 × Container :=
  let (declaringIndex, container) := container.internType declaringType
  let (typeIndex, container) := container.internType type
  let (nameIndex, container) := container.internString name
  let id : FieldId := { declaringType := declaringIndex, type := typeIndex, name := nameIndex }
  match container.fields.findIdx? (· == id) with
  | some index => (UInt32.ofNat index, container)
  | none =>
    (UInt32.ofNat container.fields.size, { container with fields := container.fields.push id })

/-- The container with a method, and the method's number. -/
def internMethod (container : Container) (declaringType name returnType : String)
    (parameters : List String) : UInt32 × Container :=
  let (declaringIndex, container) := container.internType declaringType
  let (protoIndex, container) := container.internProto returnType parameters
  let (nameIndex, container) := container.internString name
  let id : MethodId := { declaringType := declaringIndex, proto := protoIndex, name := nameIndex }
  match container.methods.findIdx? (· == id) with
  | some index => (UInt32.ofNat index, container)
  | none =>
    (UInt32.ofNat container.methods.size, { container with methods := container.methods.push id })

end DexPatch.Container
