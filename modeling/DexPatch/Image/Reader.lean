import DexPatch.Image.BodyReader
import DexPatch.Image.Header
import DexPatch.Image.ValueReader

namespace DexPatch

/-!
# Reading an image

The header is checked first and in a fixed order, whatever the rest holds.
Then come the pools, the sections that only the map leads to, and the classes.
The digests in the header are not compared with the data.
-/

/-- The number of a decimal numeral, which may have a plus sign. -/
def decimal? (text : List Char) : Option Nat :=
  let digits := match text with
    | '+' :: rest => rest
    | _ => text
  if digits.isEmpty then none
  else if digits.all Char.isDigit then
    some (digits.foldl (fun n digit => n * 10 + (digit.toNat - '0'.toNat)) 0)
  else none

namespace Version

/-- The version as text. -/
def text (version : Version) : String := Text.lossy version.bytes

/-- Is the version one of those that can be read? -/
def isSupported (version : Version) : Bool :=
  match decimal? version.text.toList with
  | some n => 35 ≤ n && n ≤ 40
  | none => false

end Version

/-- The count and the offset in the header at a position. -/
def tableAt (data : Bytes) (position : Nat) : Except DecodeError (Nat × Nat) := do
  let count ← natAt data position
  return (count, ← natAt data (position + 4))

/-- The version, if the header is in order. -/
def readHeader (data : Bytes) : Except DecodeError Version := do
  let header ← bytesAt data 0 Header.size
  match header with
  | d :: e :: x :: newline :: first :: second :: third :: zero :: _ =>
    if [d, e, x, newline] ≠ Header.magic ∨ zero ≠ 0 then
      throw .badMagic
    let version : Version := { first, second, third }
    if !version.isSupported then
      throw (.unsupportedVersion version.text)
    let tag ← u32At data 0x28
    if tag ≠ Header.endianTag then
      throw (.badEndianTag tag)
    if (← natAt data 0x24) < Header.size then
      throw (.malformed .headerSize 0x24)
    return version
  | _ => throw .badMagic

/-- The position of the first zero byte, looking at no more than `budget` bytes. -/
def zeroWithin (data : Bytes) : (budget position : Nat) → Option Nat
  | 0, _ => none
  | budget + 1, position =>
    match data[position]? with
    | none => none
    | some byte => if byte = 0 then some position else zeroWithin data budget (position + 1)

/-- The pool string at an offset. -/
def stringAt (data : Bytes) (offset : Nat) : Except DecodeError PoolString := do
  let (utf16Length, start) ← Leb128.readUnsigned data offset
  match zeroWithin data (data.size - start) start with
  | none => throw (.malformed .stringData offset)
  | some stop => return { data := (data.extract start stop).toList, utf16Length }

/-- The list of types at an offset; offset zero stands for the empty list. -/
def typeListAt (data : Bytes) (types offset : Nat) : Except DecodeError (List UInt32) := do
  if offset = 0 then
    return []
  let count ← natAt data offset
  collect count fun i => do
    checked .type types (← u16At data (offset + 4 + i * 2)).toUInt32

/-- The entries of the table that the header tells of at a position. -/
def readTable {α : Type} (data : Bytes) (position entrySize : Nat)
    (entry : Nat → Except DecodeError α) : Except DecodeError (Array α) := do
  let (count, offset) ← tableAt data position
  return (← collect count fun i => entry (offset + i * entrySize)).toArray

/-- The prototype whose entry is at an offset. -/
def protoAt (data : Bytes) (container : Container) (offset : Nat) : Except DecodeError Proto := do
  let types := container.types.size
  let shorty ← checked .string container.strings.size (← u32At data offset)
  let returnType ← checked .type types (← u32At data (offset + 4))
  let parameters ← typeListAt data types (← natAt data (offset + 8))
  return { shorty, returnType, parameters }

/-- The field whose entry is at an offset. -/
def fieldAt (data : Bytes) (container : Container) (offset : Nat) :
    Except DecodeError FieldId := do
  let types := container.types.size
  let declaringType ← checked .type types (← u16At data offset).toUInt32
  let type ← checked .type types (← u16At data (offset + 2)).toUInt32
  let name ← checked .string container.strings.size (← u32At data (offset + 4))
  return { declaringType, type, name }

/-- The method whose entry is at an offset. -/
def methodAt (data : Bytes) (container : Container) (offset : Nat) :
    Except DecodeError MethodId := do
  let declaringType ← checked .type container.types.size (← u16At data offset).toUInt32
  let proto ← checked .proto container.protos.size (← u16At data (offset + 2)).toUInt32
  let name ← checked .string container.strings.size (← u32At data (offset + 4))
  return { declaringType, proto, name }

/-- The container with the section that an entry of the map at an offset leads to, for the three
kinds that nothing else leads to.  Of two entries of a kind the later one counts. -/
def readSection (data : Bytes) (container : Container) (offset : Nat) :
    Except DecodeError Container := do
  let kind := (← u16At data offset).toNat
  let count ← natAt data (offset + 4)
  let start ← natAt data (offset + 8)
  if kind = SectionKind.callSiteIds.code then
    let callSites ← collect count fun i => do
      (readValues data).readAt (← natAt data (start + i * 4))
    return { container with callSites }
  else if kind = SectionKind.methodHandles.code then
    let methodHandles ← collect count fun i => do
      let kind ← u16At data (start + i * 8)
      return { kind, target := (← u16At data (start + i * 8 + 4)).toUInt32 }
    return { container with methodHandles }
  else if kind = SectionKind.hiddenApi.code then
    let size ← natAt data start
    return { container with hiddenApi := some (← bytesAt data start size).toArray }
  else
    return container

/-- The container with the sections of the remaining entries of the map, from an offset on. -/
def readSections (data : Bytes) : (remaining offset : Nat) → Container →
    Except DecodeError Container
  | 0, _, container => .ok container
  | remaining + 1, offset, container =>
    match readSection data container offset with
    | .ok container => readSections data remaining (offset + 12) container
    | .error error => .error error

/-- The sections behind the first one are read into what that one makes of the container. -/
theorem readSections_succ (data : Bytes) (remaining offset : Nat) (container : Container) :
    readSections data (remaining + 1) offset container =
      readSection data container offset >>= readSections data remaining (offset + 12) := by
  rw [readSections]
  cases readSection data container offset <;> rfl

/-- The field of a class behind the one with a number. -/
def readMemberField (data : Bytes) (fields : Nat) (previous : UInt32) : Cursor MemberField := do
  let field ← checked .field fields (previous + (← Cursor.unsigned data))
  return { field, access := ← Cursor.unsigned data }

/-- The method of a class behind the one with a number. -/
def readMemberMethod (data : Bytes) (methods : Nat) (previous : UInt32) : Cursor MemberMethod := do
  let method := previous + (← Cursor.unsigned data)
  let access ← Cursor.unsigned data
  let bodyOffset ← Cursor.unsigned data
  let method ← checked .method methods method
  if bodyOffset = 0 then
    return { method, access, body := none }
  else
    return { method, access, body := some (← bodyAt data bodyOffset.toNat) }

/-- Reads the members of a class. -/
def readClassData (data : Bytes) (container : Container) : Cursor ClassData := do
  let staticCount ← Cursor.unsigned data
  let instanceCount ← Cursor.unsigned data
  let directCount ← Cursor.unsigned data
  let virtualCount ← Cursor.unsigned data
  let fields (count : UInt32) : Cursor (List MemberField) :=
    Cursor.ascending MemberField.field count.toNat (readMemberField data container.fields.size)
  let methods (count : UInt32) : Cursor (List MemberMethod) :=
    Cursor.ascending MemberMethod.method count.toNat (readMemberMethod data container.methods.size)
  let staticFields ← fields staticCount
  let instanceFields ← fields instanceCount
  let directMethods ← methods directCount
  return { staticFields, instanceFields, directMethods, virtualMethods := ← methods virtualCount }

/-- The number in the field at an offset, unless it stands for none. -/
def optionalAt (data : Bytes) (pool : Pool) (size offset : Nat) :
    Except DecodeError (Option UInt32) := do
  let index ← u32At data offset
  if index = Header.noIndex then
    return none
  else
    return some (← checked pool size index)

/-- What a reader finds at an offset that stands for nothing if it is zero. -/
def atOffset {α : Type} (offset : Nat) (reader : Nat → Except DecodeError α) :
    Except DecodeError (Option α) :=
  if offset = 0 then .ok none else some <$> reader offset

/-- The class whose entry is at an offset. -/
def classAt (data : Bytes) (container : Container) (offset : Nat) :
    Except DecodeError ClassDef := do
  let types := container.types.size
  let superclass ← optionalAt data .type types (offset + 8)
  let sourceFile ← optionalAt data .string container.strings.size (offset + 16)
  let annotationsAt ← natAt data (offset + 20)
  let dataAt ← natAt data (offset + 24)
  let staticValuesAt ← natAt data (offset + 28)
  let type ← checked .type types (← u32At data offset)
  let access ← u32At data (offset + 4)
  let interfaces ← typeListAt data types (← natAt data (offset + 12))
  let annotations ← atOffset annotationsAt (directoryAt data)
  let members ← atOffset dataAt (readClassData data container).readAt
  let staticValues ← atOffset staticValuesAt (readValues data).readAt
  return { type, access, superclass, interfaces, sourceFile, annotations, data := members
           staticValues }

namespace Container

/-- The container that an image holds. -/
def decode (data : Bytes) : Except DecodeError Container := do
  let container := { empty with version := ← readHeader data }
  let container := { container with strings := ← readTable data 0x38 4 fun offset => do
    stringAt data (← natAt data offset) }
  let container := { container with types := ← readTable data 0x40 4 fun offset => do
    checked .string container.strings.size (← u32At data offset) }
  let container := { container with protos := ← readTable data 0x48 12 (protoAt data container) }
  let container := { container with fields := ← readTable data 0x50 8 (fieldAt data container) }
  let container := { container with methods := ← readTable data 0x58 8 (methodAt data container) }
  let mapOffset ← natAt data 0x34
  let container ←
    if mapOffset = 0 then
      pure container
    else
      readSections data (← natAt data mapOffset) (mapOffset + 4) container
  let classes ← readTable data 0x60 32 (classAt data container)
  return { container with classes := classes.toList }

end Container

end DexPatch
