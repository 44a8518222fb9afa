import DexPatch.Container.Basic
import DexPatch.Image.Cursor

namespace DexPatch

/-!
# Reading values and annotations

A value's first byte tells its type and how many bytes follow.  Values nest to
any depth, but each takes at least one byte, so the bytes that are left bound
the depth: a reader with no more of them finds the end of the data.
-/

/-- The signed number whose lowest bits, so many bytes of them, are given. -/
def signExtended (width n : Nat) : Int :=
  if 2 * n < capacity width then (n : Int) else (n : Int) - (capacity width : Int)

/-- A pool number inside a value that starts at an offset. -/
def valueIndex (start n : Nat) : Except DecodeError UInt32 :=
  if n < capacity 4 then .ok (UInt32.ofNat n) else .error (.malformed .valueIndex start)

/-- The kind of value whose payload is a number in so many bytes. -/
def numberValue? (type width : Nat) : Option (Nat → Value) :=
  match type with
  | 0x00 => some fun n => .byte (Int8.ofInt (signExtended width n))
  | 0x02 => some fun n => .short (Int16.ofInt (signExtended width n))
  | 0x03 => some fun n => .char (UInt16.ofNat n)
  | 0x04 => some fun n => .int (Int32.ofInt (signExtended width n))
  | 0x06 => some fun n => .long (Int64.ofInt (signExtended width n))
  | 0x10 => some fun n => .float (UInt32.ofNat (n * capacity (4 - width)))
  | 0x11 => some fun n => .double (UInt64.ofNat (n * capacity (8 - width)))
  | _ => none

/-- The kind of value whose payload is a pool number. -/
def indexValue? (type : Nat) : Option (UInt32 → Value) :=
  match type with
  | 0x15 => some .methodType
  | 0x16 => some .methodHandle
  | 0x17 => some .string
  | 0x18 => some .type
  | 0x19 => some .field
  | 0x1a => some .method
  | 0x1b => some .enum
  | _ => none

/-- Reads a value, given a bound on the depth to which values nest in it. -/
def valueWithin (data : Bytes) : (depth : Nat) → Cursor Value
  | 0 => fun position => .error (.unexpectedEnd (position + 1))
  | depth + 1 => do
    let start ← get
    let header ← Cursor.byte data
    let type := header.toNat % 32
    let width := header.toNat / 32 + 1
    if type = 0x1c then
      let count ← Cursor.unsigned data
      return .array (← Cursor.times count.toNat (valueWithin data depth))
    else if type = 0x1d then
      let index ← Cursor.unsigned data
      let count ← Cursor.unsigned data
      let elements ← Cursor.times count.toNat do
        let name ← Cursor.unsigned data
        return (name, ← valueWithin data depth)
      return .annotated index elements
    else if type = 0x1e then
      return .null
    else if type = 0x1f then
      return .boolean (width ≠ 1)
    else
      match numberValue? type width, indexValue? type with
      | some value, _ => return value (← Cursor.number data width)
      | none, some value => return value (← valueIndex start (← Cursor.number data width))
      | none, none => throw (.malformed .valueType start)

/-- Reads a value. -/
def readValue (data : Bytes) : Cursor Value := fun position =>
  valueWithin data (data.size - position) position

/-- Reads a list of values behind its count. -/
def readValues (data : Bytes) : Cursor (List Value) := do
  let count ← Cursor.unsigned data
  Cursor.times count.toNat (readValue data)

/-- Reads the type and the named values of an annotation. -/
def readAnnotated (data : Bytes) : Cursor (UInt32 × List (UInt32 × Value)) := do
  let type ← Cursor.unsigned data
  let count ← Cursor.unsigned data
  let elements ← Cursor.times count.toNat do
    let name ← Cursor.unsigned data
    return (name, ← readValue data)
  return (type, elements)

/-- The set of annotations at an offset. -/
def annotationSetAt (data : Bytes) (offset : Nat) : Except DecodeError AnnotationSet := do
  let count ← natAt data offset
  collect count fun i => do
    let item ← natAt data (offset + 4 + i * 4)
    let visibility ← u8At data item
    let (type, elements) ← (readAnnotated data).readAt (item + 1)
    return { visibility, type, elements }

/-- The sets of a method's parameters at an offset. -/
def refListAt (data : Bytes) (offset : Nat) : Except DecodeError (List (Option AnnotationSet)) := do
  let count ← natAt data offset
  collect count fun i => do
    let set ← natAt data (offset + 4 + i * 4)
    if set = 0 then return none else return some (← annotationSetAt data set)

/-- So many pairs of a member and an offset. -/
def memberOffsetsAt (data : Bytes) (offset count : Nat) : Except DecodeError (List (UInt32 × Nat)) :=
  collect count fun i => do
    let member ← u32At data (offset + i * 8)
    return (member, ← natAt data (offset + i * 8 + 4))

/-- The annotations of a class and its members at an offset. -/
def directoryAt (data : Bytes) (offset : Nat) : Except DecodeError AnnotationDirectory := do
  let ofClass ← natAt data offset
  let fieldCount ← natAt data (offset + 4)
  let methodCount ← natAt data (offset + 8)
  let parameterCount ← natAt data (offset + 12)
  let fieldsAt := offset + 16
  let methodsAt := fieldsAt + fieldCount * 8
  let parametersAt := methodsAt + methodCount * 8
  let fields ← memberOffsetsAt data fieldsAt fieldCount
  let methods ← memberOffsetsAt data methodsAt methodCount
  let parameters ← memberOffsetsAt data parametersAt parameterCount
  let withSet (entry : UInt32 × Nat) : Except DecodeError (UInt32 × AnnotationSet) := do
    return (entry.1, ← annotationSetAt data entry.2)
  let ofClass ← if ofClass = 0 then pure none else some <$> annotationSetAt data ofClass
  let ofFields ← fields.mapM withSet
  let ofMethods ← methods.mapM withSet
  let ofParameters ← parameters.mapM fun (method, refList) => do
    return (method, ← refListAt data refList)
  return { ofClass, ofFields, ofMethods, ofParameters }

end DexPatch
