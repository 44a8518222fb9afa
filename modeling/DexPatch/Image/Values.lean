import DexPatch.Image.Handlers
import DexPatch.Container.References

namespace DexPatch

/-!
# The written form of values, debug information and bodies

A number inside a value takes the fewest bytes from which it reads back: a
signed one drops bytes that only extend its sign, an unsigned one drops zero
bytes at its high end, and a floating-point one drops zero bytes at its low
end.  The type of the value and the count of its bytes share the byte in
front.
-/

/-- The fewest bytes, at most eight, from which a signed number reads back. -/
def signedWidth (i : Int) : Nat :=
  (([1, 2, 3, 4, 5, 6, 7].find? fun width : Nat =>
    decide (-(capacity width : Int) ≤ 2 * i ∧ 2 * i < (capacity width : Int))).getD 8)

/-- The fewest bytes, at least one and at most eight, from which an unsigned number reads back. -/
def unsignedWidth (n : Nat) : Nat :=
  (([1, 2, 3, 4, 5, 6, 7].find? fun width : Nat => decide (n < capacity width)).getD 8)

/-- Bytes without the zeros in front, except that the last byte stays. -/
def dropLowZeros : List UInt8 → List UInt8
  | [] => []
  | [byte] => [byte]
  | byte :: next :: rest => if byte = 0 then dropLowZeros (next :: rest) else byte :: next :: rest

/-- A value of a type, with its count of bytes in front. -/
def sizedValue (type : Nat) (payload : List UInt8) : List UInt8 :=
  UInt8.ofNat ((payload.length - 1) * 32 + type) :: payload

/-- A signed number in its shortest form. -/
def signedValue (type : Nat) (i : Int) : List UInt8 :=
  sizedValue type (littleEndian (signedWidth i) (i % (capacity 8 : Int)).toNat)

/-- An unsigned number in its shortest form. -/
def unsignedValue (type : Nat) (n : Nat) : List UInt8 :=
  sizedValue type (littleEndian (unsignedWidth n) n)

mutual

/-- The written form of a value. -/
def Value.bytes : Value → List UInt8
  | .byte value => sizedValue 0x00 (littleEndian 1 (value.toInt % 256).toNat)
  | .short value => signedValue 0x02 value.toInt
  | .char value => unsignedValue 0x03 value.toNat
  | .int value => signedValue 0x04 value.toInt
  | .long value => signedValue 0x06 value.toInt
  | .float bits => sizedValue 0x10 (dropLowZeros (littleEndian 4 bits.toNat))
  | .double bits => sizedValue 0x11 (dropLowZeros (littleEndian 8 bits.toNat))
  | .methodType index => unsignedValue 0x15 index.toNat
  | .methodHandle index => unsignedValue 0x16 index.toNat
  | .string index => unsignedValue 0x17 index.toNat
  | .type index => unsignedValue 0x18 index.toNat
  | .field index => unsignedValue 0x19 index.toNat
  | .method index => unsignedValue 0x1a index.toNat
  | .enum index => unsignedValue 0x1b index.toNat
  | .array items =>
    0x1c :: Leb128.unsigned (UInt32.ofNat items.length) ++ Value.bytesOfItems items
  | .annotated index elements =>
    0x1d :: Leb128.unsigned index ++ Leb128.unsigned (UInt32.ofNat elements.length) ++
      Value.bytesOfElements elements
  | .null => [0x1e]
  | .boolean value => [if value then 0x3f else 0x1f]

/-- Values one behind the other. -/
def Value.bytesOfItems : List Value → List UInt8
  | [] => []
  | item :: rest => item.bytes ++ Value.bytesOfItems rest

/-- Named values one behind the other. -/
def Value.bytesOfElements : List (UInt32 × Value) → List UInt8
  | [] => []
  | (name, value) :: rest => Leb128.unsigned name ++ value.bytes ++ Value.bytesOfElements rest

end

/-- A list of values behind its count. -/
def Value.arrayBytes (items : List Value) : List UInt8 :=
  Leb128.unsigned (UInt32.ofNat items.length) ++ Value.bytesOfItems items

/-- The written form of an annotation of a set. -/
def AnnotationItem.bytes (item : AnnotationItem) : List UInt8 :=
  item.visibility :: Leb128.unsigned item.type ++
    Leb128.unsigned (UInt32.ofNat item.elements.length) ++
    Value.bytesOfElements item.elements

/-- The written form of a debug step. -/
def DebugOp.bytes : DebugOp → List UInt8
  | .advancePc delta => 0x01 :: Leb128.unsigned delta
  | .advanceLine delta => 0x02 :: Leb128.signed delta
  | .startLocal register name type =>
    0x03 :: Leb128.unsigned register ++ Leb128.optional name ++ Leb128.optional type
  | .startLocalExtended register name type signature =>
    0x04 :: Leb128.unsigned register ++ Leb128.optional name ++ Leb128.optional type ++
      Leb128.optional signature
  | .endLocal register => 0x05 :: Leb128.unsigned register
  | .restartLocal register => 0x06 :: Leb128.unsigned register
  | .prologueEnd => [0x07]
  | .epilogueBegin => [0x08]
  | .setFile name => 0x09 :: Leb128.optional name
  | .special opcode => [opcode]

/-- The written form of debug information; a zero byte ends its steps. -/
def DebugInfo.bytes (debug : DebugInfo) : List UInt8 :=
  Leb128.unsigned debug.lineStart ++
    Leb128.unsigned (UInt32.ofNat debug.parameterNames.length) ++
    debug.parameterNames.flatMap Leb128.optional ++ debug.ops.flatMap DebugOp.bytes ++ [0x00]

/-- The written form of a try range. -/
def TryRange.bytes (list : HandlerList) (range : TryRange) : List UInt8 :=
  le32 range.start.toNat ++ le16 range.length.toNat ++ le16 (list.offsets[range.handler]?.getD 0)

/-- The written form of the try ranges and handlers of a body; without a try range, nothing. -/
def Body.tryBytes (body : Body) : List UInt8 :=
  if body.tries.isEmpty then
    []
  else
    let list := HandlerList.ofHandlers body.handlers
    (if body.code.length % 2 = 1 then le16 0 else []) ++ body.tries.flatMap (TryRange.bytes list) ++
      list.bytes

/-- The written form of a body whose debug information is at an offset. -/
def Body.bytes (body : Body) (debugOffset : Nat) : List UInt8 :=
  le16 body.registers.toNat ++ le16 body.ins.toNat ++ le16 body.outs.toNat ++
    le16 body.tries.length ++ le32 debugOffset ++ le32 body.code.length ++
    (body.code.flatMap fun unit => le16 unit.toNat) ++ body.tryBytes

/-- Ascending numbers as differences, each from the one before it. -/
def differences : (previous : UInt32) → List UInt32 → List UInt32
  | _, [] => []
  | previous, index :: rest => (index - previous) :: differences index rest

/-- The written form of the fields of a class. -/
def MemberField.listBytes (fields : List MemberField) : List UInt8 :=
  (List.zip (differences 0 (fields.map (·.field))) fields).flatMap fun (difference, field) =>
    Leb128.unsigned difference ++ Leb128.unsigned field.access

/-- The written form of the methods of a class whose bodies are at some offsets. -/
def MemberMethod.listBytes (methods : List MemberMethod) (offsets : List Nat) : List UInt8 :=
  (List.zip (differences 0 (methods.map (·.method))) (List.zip methods offsets)).flatMap
    fun (difference, method, offset) =>
      Leb128.unsigned difference ++ Leb128.unsigned method.access ++
        Leb128.unsigned (UInt32.ofNat offset)

/-- The written form of the members of a class, given the offset of each method's body, or zero. -/
def ClassData.bytes (data : ClassData) (offsets : List Nat) : List UInt8 :=
  let count (n : Nat) : List UInt8 := Leb128.unsigned (UInt32.ofNat n)
  let direct := data.directMethods.length
  count data.staticFields.length ++ count data.instanceFields.length ++ count direct ++
    count data.virtualMethods.length ++ MemberField.listBytes data.staticFields ++
    MemberField.listBytes data.instanceFields ++
    MemberMethod.listBytes data.directMethods (offsets.take direct) ++
    MemberMethod.listBytes data.virtualMethods (offsets.drop direct)

end DexPatch
