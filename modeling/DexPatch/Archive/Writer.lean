import DexPatch.Archive.Reader

namespace DexPatch.Archive

/-!
# Writing archives

The entries stand one behind the other, each behind a header of its own, and
the directory behind them.  A number that is too large for a header stands in a
field behind it, and one that is too large for the record behind the directory
stands in a wide record, with its locator, in front of that record.
-/

open FieldReading (tooLarge)

/-- The version of the format that readers need where no number is too large. -/
def plainVersion : Nat := 20

/-- The version of the format that readers need where numbers are too large. -/
def wideVersion : Nat := 45

/-- The version of the format, and the system whose attributes the entries have. -/
def writerVersion : Nat := 0x0314

/-- The most bytes that the name of an entry has, and the most entries that the record behind the
directory counts. -/
def largestShort : Nat := 0xffff

/-- The stored form of the content of an entry. -/
def storedForm (entry : Entry) : Bytes := entry.data.getD #[]

/-- The flags of an entry: what is not ASCII is marked as UTF-8. -/
def flagsOf (entry : Entry) : Nat :=
  (if entry.name.toList.all (·.toNat < 0x80) then 0 else utf8Flag) +
    (if entry.encrypted then encryptedFlag else 0)

/-- Is a size of an entry too large for its headers?  Then neither stands in them. -/
def isLarge (entry : Entry) : Bool := tooLarge ≤ max entry.size (storedForm entry).size

/-- What stands in a header for a number that may stand behind it. -/
def narrowed (isWide : Bool) (number : Nat) : Nat := if isWide then tooLarge else number

/-- A number behind a header, if it stands there. -/
def widened (isWide : Bool) (number : Nat) : List UInt8 :=
  if isWide then littleEndian 8 number else []

/-- The field of the numbers behind a header, if there are any. -/
def wideField (numbers : List UInt8) : List UInt8 :=
  if numbers.isEmpty then [] else le16 0x0001 ++ le16 numbers.length ++ numbers

/-- The sizes of an entry that stand behind its headers. -/
def wideSizes (entry : Entry) : List UInt8 :=
  widened (isLarge entry) entry.size ++ widened (isLarge entry) (storedForm entry).size

/-- The field behind the header of an entry. -/
def entryExtra (entry : Entry) : List UInt8 := wideField (wideSizes entry)

/-- The field behind the header of an entry in the directory. -/
def directoryExtra (entry : Entry) (offset : Nat) : List UInt8 :=
  wideField (wideSizes entry ++ widened (tooLarge ≤ offset) offset)

/-- The fields that both headers of an entry have, with some bytes behind its name. -/
def sharedFields (entry : Entry) (extra : List UInt8) : List UInt8 :=
  le16 (if extra.isEmpty then plainVersion else wideVersion) ++ le16 (flagsOf entry) ++
    le16 entry.compression.code ++ le32 entry.modified.toNat ++ le32 entry.checksum.toNat ++
    le32 (narrowed (isLarge entry) (storedForm entry).size) ++
    le32 (narrowed (isLarge entry) entry.size) ++ le16 (textBytes entry.name).length ++
    le16 extra.length

/-- An entry without its data. -/
def entryHeader (entry : Entry) : List UInt8 :=
  le32 entrySignature ++ sharedFields entry (entryExtra entry) ++ textBytes entry.name ++
    entryExtra entry

/-- The header of an entry in the directory. -/
def directoryHeader (entry : Entry) (offset : Nat) : List UInt8 :=
  le32 headerSignature ++ le16 writerVersion ++ sharedFields entry (directoryExtra entry offset) ++
    le16 0 ++ le16 0 ++ le16 0 ++ le32 entry.attributes.toNat ++
    le32 (narrowed (tooLarge ≤ offset) offset) ++ textBytes entry.name ++
    directoryExtra entry offset

/-- Is the number of headers, the size or the offset of a directory too large for the record behind
it? -/
def isWide (count size offset : Nat) : Bool := largestShort < count || tooLarge < max size offset

/-- The wide record behind a directory. -/
def wideRecord (count size offset : Nat) : List UInt8 :=
  le32 wideSignature ++ littleEndian 8 wideLeast ++ le16 wideVersion ++ le16 wideVersion ++
    le32 0 ++ le32 0 ++ littleEndian 8 count ++ littleEndian 8 count ++ littleEndian 8 size ++
    littleEndian 8 offset

/-- The locator of the wide record at an offset. -/
def locator (offset : Nat) : List UInt8 :=
  le32 locatorSignature ++ le32 0 ++ littleEndian 8 offset ++ le32 1

/-- The record that an archive ends in. -/
def endRecord (count size offset : Nat) : List UInt8 :=
  le32 endSignature ++ le16 0 ++ le16 0 ++ le16 (min count largestShort) ++
    le16 (min count largestShort) ++ le32 (min size tooLarge) ++ le32 (min offset tooLarge) ++ le16 0

/-- The records behind a directory. -/
def endRecords (count size offset : Nat) : List UInt8 :=
  (if isWide count size offset then wideRecord count size offset ++ locator (offset + size)
    else []) ++
  endRecord count size offset

/-- What is written so far: the entries, and the directory of them. -/
structure Written where
  entries : Bytes
  directory : Bytes

/-- What is written after one more entry. -/
def Written.add (written : Written) (entry : Entry) : Written :=
  let offset := written.entries.size
  { entries := written.entries ++ entryHeader entry ++ storedForm entry
    directory := written.directory ++ directoryHeader entry offset }

/-- The bytes of an archive. -/
def bytes (archive : Archive) : Bytes :=
  let written := List.foldl Written.add { entries := #[], directory := #[] } archive
  written.entries ++ written.directory ++
    endRecords (List.length archive) written.directory.size written.entries.size

/-- Writes an archive whose names are short enough. -/
def write (archive : Archive) : Except ArchiveError Bytes :=
  if List.all archive fun entry => (textBytes entry.name).length ≤ largestShort then
    .ok archive.bytes
  else
    .error (.container .nameTooLong)

end DexPatch.Archive
