import DexPatch.Image.Values
import DexPatch.Instruction.InPlace
import DexPatch.Renumber.Arranged

namespace DexPatch

/-!
# Writing values under new numbers

What a value refers to gets its new number as the value is written, and the
elements of an annotation get their order from the new numbers of their names.
An entry that has no new number ends the writing.  The names of an annotation
are looked up first, then its type, and then what its elements refer to, in
the order in which they are written.
-/

namespace NewNumbers

/-- The new number of an entry that a value refers to. -/
def lookUp (numbers : NewNumbers) (pool : Pool) (index : UInt32) : Except EncodeError UInt32 :=
  match numbers pool index with
  | some number => .ok number
  | none => .error (.danglingIndex pool index)

/-- A value that refers to an entry of a pool. -/
def indexBytes (numbers : NewNumbers) (type : Nat) (pool : Pool) (index : UInt32) :
    Except EncodeError (List UInt8) := do
  return unsignedValue type (← numbers.lookUp pool index).toNat

/-- An annotation with what writing each of its values ends with. -/
def annotationBytes (numbers : NewNumbers) (type : UInt32)
    (elements : List (UInt32 × Except EncodeError (List UInt8))) :
    Except EncodeError (List UInt8) := do
  let named ← elements.mapM fun (name, written) => do
    return (← numbers.lookUp .string name, written)
  let type ← numbers.lookUp .type type
  let written ← (sortOn (·.1) named).mapM fun (name, written) => do
    return Leb128.unsigned name ++ (← written)
  return Leb128.unsigned type ++ Leb128.unsigned (UInt32.ofNat elements.length) ++ written.flatten

mutual

/-- The written form of a value under new numbers. -/
def valueBytes (numbers : NewNumbers) : Value → Except EncodeError (List UInt8)
  | .methodType index => numbers.indexBytes 0x15 .proto index
  | .methodHandle index => numbers.indexBytes 0x16 .methodHandle index
  | .string index => numbers.indexBytes 0x17 .string index
  | .type index => numbers.indexBytes 0x18 .type index
  | .field index => numbers.indexBytes 0x19 .field index
  | .method index => numbers.indexBytes 0x1a .method index
  | .enum index => numbers.indexBytes 0x1b .field index
  | .array items => do
    let written ← numbers.itemsBytes items
    return 0x1c :: Leb128.unsigned (UInt32.ofNat items.length) ++ written
  | .annotated type elements => do
    return 0x1d :: (← numbers.annotationBytes type (numbers.elementsBytes elements))
  | .byte value => return (Value.byte value).bytes
  | .short value => return (Value.short value).bytes
  | .char value => return (Value.char value).bytes
  | .int value => return (Value.int value).bytes
  | .long value => return (Value.long value).bytes
  | .float bits => return (Value.float bits).bytes
  | .double bits => return (Value.double bits).bytes
  | .null => return Value.null.bytes
  | .boolean value => return (Value.boolean value).bytes

/-- Values one behind the other. -/
def itemsBytes (numbers : NewNumbers) : List Value → Except EncodeError (List UInt8)
  | [] => return []
  | item :: rest => do return (← numbers.valueBytes item) ++ (← numbers.itemsBytes rest)

/-- Names, each with what writing its value ends with. -/
def elementsBytes (numbers : NewNumbers) :
    List (UInt32 × Value) → List (UInt32 × Except EncodeError (List UInt8))
  | [] => []
  | (name, value) :: rest => (name, numbers.valueBytes value) :: numbers.elementsBytes rest

end

end NewNumbers

end DexPatch
