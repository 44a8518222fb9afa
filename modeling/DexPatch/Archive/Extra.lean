import DexPatch.Archive.CodePage
import DexPatch.Archive.Entry
import DexPatch.Text.Utf8

namespace DexPatch.Archive

/-!
# Extra fields

A header of the directory can be followed by fields of a kind and a length
each.  They hold numbers too large for the header, texts in UTF-8 in place of
those in the header, or the compression of an encrypted entry.  A field of a
known kind has to be well formed, and one of another kind is passed over.
Where the bytes end inside a field, what has been read so far stays.
-/

/-- What a header of the directory says of an entry, as far as fields behind it can change it. -/
structure Description where
  /-- The name as it is stored. -/
  rawName : List UInt8
  name : String
  comment : String
  compression : Compression
  /-- Does a field say how the content is encrypted? -/
  hasCipher : Bool
  /-- The size of the content. -/
  size : Nat
  /-- The size of the stored form of the content. -/
  storedSize : Nat
  /-- The offset of the entry in the archive. -/
  offset : Nat
deriving DecidableEq, Repr

/-- The bytes of a text. -/
def textBytes (text : String) : List UInt8 := text.toUTF8.data.toList

/-- The text of bytes in one of the two encodings that archives have. -/
def decoded (isUtf8 : Bool) (bytes : List UInt8) : String :=
  if isUtf8 then Text.lossy bytes else codePageText bytes

/-- What has been read, and the bytes behind it. -/
structure Fields where
  description : Description
  rest : List UInt8
deriving Repr

/-- Why reading fields ends before all bytes are read. -/
inductive FieldFault where
  | cut
  | malformed
deriving DecidableEq, Repr

/-- A step of reading fields; what it has read stays when it fails. -/
abbrev FieldReading := ExceptT FieldFault (StateM Fields)

namespace FieldReading

/-- The next bytes, so many. -/
def bytes (count : Nat) : FieldReading (List UInt8) := do
  let rest := (← get).rest
  if rest.length < count then
    throw .cut
  modify fun fields => { fields with rest := rest.drop count }
  return rest.take count

/-- The number in so many bytes. -/
def number (width : Nat) : FieldReading Nat := do
  return ofLittleEndian (← bytes width)

/-- Passes over so many bytes. -/
def skip (count : Nat) : FieldReading Unit := do
  let _ ← bytes count

/-- A rule that a field has to keep. -/
def require (holds : Bool) : FieldReading Unit :=
  if holds then pure () else throw .malformed

/-- Changes the description. -/
def describe (change : Description → Description) : FieldReading Unit :=
  modify fun fields => { fields with description := change fields.description }

/-- The text of bytes in UTF-8. -/
def text (bytes : List UInt8) : FieldReading String :=
  match Text.utf8? bytes with
  | some text => return text
  | none => throw .malformed

/-- What stands in place of a number that is too large for four bytes. -/
def tooLarge : Nat := 0xffffffff

/-- The length of a field that holds all numbers. -/
def fullLength : Nat := 24

/-- Reads a number of eight bytes if there is one, and gives how many bytes it takes. -/
def wideNumber (isThere : Bool) (change : Nat → Description → Description) :
    FieldReading Nat := do
  if isThere then
    let number ← number 8
    describe (change number)
    return 8
  else
    return 0

/-- Reads the numbers that are too large for the header, or all of them. -/
def numbers (length : Nat) : FieldReading Unit := do
  let isThere (number : Nat) : Bool := fullLength ≤ length || number == tooLarge
  let before := (← get).description
  let sizes ← wideNumber (isThere before.size) fun size description => { description with size }
  let storedSizes ← wideNumber (isThere before.storedSize) fun storedSize description =>
    { description with storedSize }
  let offsets ← wideNumber (isThere before.offset) fun offset description =>
    { description with offset }
  let taken := sizes + storedSizes + offsets
  require (taken ≤ length)
  skip (length - taken)

/-- Passes over the times of a file in ticks: one attribute, which holds three times. -/
def tickTimes (length : Nat) : FieldReading Unit := do
  require (length == 32)
  skip 4
  require ((← number 2) == 1)
  require ((← number 2) == 24)
  skip 24

/-- How many of the three lowest bits of a number are set. -/
def lowBits (number : Nat) : Nat := number % 2 + number / 2 % 2 + number / 4 % 2

/-- Passes over the times of a file in seconds.  A bit for each comes first.  The directory may
hold only one of the times that the entry itself has. -/
def secondTimes (length : Nat) : FieldReading Unit := do
  let flags ← number 1
  require (flags < 8 && (length == 5 || length == 1 + 4 * lowBits flags))
  skip (length - 1)

/-- The text in a field that stands in place of another text, whose checksum it holds. -/
def replacement (length : Nat) (replaced : List UInt8) : FieldReading (List UInt8) := do
  skip 1
  let checksum ← number 4
  require (5 ≤ length)
  let replacing ← bytes (length - 5)
  require (checksum == (Digest.crc32 replaced.toArray).toNat)
  return replacing

/-- Reads a name. -/
def name (length : Nat) : FieldReading Unit := do
  let rawName ← replacement length (← get).description.rawName
  let name ← text rawName
  describe fun description => { description with rawName, name }

/-- Reads a comment. -/
def comment (length : Nat) : FieldReading Unit := do
  let comment ← text (← replacement length (textBytes (← get).description.comment))
  describe fun description => { description with comment }

/-- Reads how the content is encrypted, and its compression. -/
def cipher (length : Nat) : FieldReading Unit := do
  require (length == 7)
  let version ← number 2
  let vendor ← number 2
  let strength ← number 1
  let compression ← number 2
  require ((version == 1 || version == 2) && vendor == 0x4541 && 1 ≤ strength && strength ≤ 3)
  describe fun description =>
    { description with compression := .ofCode compression, hasCipher := true }

/-- Reads a field. -/
def field : FieldReading Unit := do
  let kind ← number 2
  let length ← number 2
  match kind with
  | 0x0001 => numbers length
  | 0x000a => tickTimes length
  | 0x5455 => secondTimes length
  | 0x6375 => comment length
  | 0x7075 => name length
  | 0x9901 => cipher length
  | _ => skip length

end FieldReading

/-- What is described when all fields are read, of which there are at most `bound`. -/
def Fields.described? : (bound : Nat) → Fields → Option Description
  | 0, fields => some fields.description
  | bound + 1, fields =>
    if fields.rest.isEmpty then
      some fields.description
    else
      match FieldReading.field.run.run fields with
      | (.ok (), fields) => described? bound fields
      | (.error .cut, fields) => some fields.description
      | (.error .malformed, _) => none

/-- The compression that says nothing but that a field names the compression. -/
def namedByField : Compression := .unsupported 99

/-- With what the fields behind a header say, one after the other. -/
def Description.withFields? (description : Description) (extra : List UInt8) :
    Option Description := do
  let description ← Fields.described? extra.length { description, rest := extra }
  if description.compression = namedByField ∧ !description.hasCipher then
    none
  else
    return description

end DexPatch.Archive
