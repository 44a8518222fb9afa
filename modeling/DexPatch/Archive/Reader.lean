import DexPatch.Archive.Directory
import DexPatch.Archive.Extra

namespace DexPatch.Archive

/-!
# Reading archives

The directory leads to the entries, all of which start before it.  Of the
entries themselves only the place of the data counts, and whether an entry is
where its header says shows only when its content is read.  If a record leads
to no directory, one further in front may still do.
-/

/-- The first bytes of an archive that starts with an entry. -/
def isArchive (data : Bytes) : Bool :=
  (data.extract 0 4).toList == [0x50, 0x4b, 0x03, 0x04]

/-- The signature of an entry. -/
def entrySignature : Nat := 0x04034b50

/-- The size of an entry's own header without the texts behind it. -/
def entryHeaderSize : Nat := 30

/-- The bit of a header that marks an encrypted entry. -/
def encryptedFlag : Nat := 1

/-- The bit of a header that marks texts in UTF-8. -/
def utf8Flag : Nat := 0x800

/-- The data of the entry at an offset: so many bytes, or fewer at the end of the archive. -/
def entryData? (data : Bytes) (offset length : Nat) : Option Bytes := do
  let signature ← field? data offset 4
  let nameLength ← field? data (offset + 26) 2
  let extraLength ← field? data (offset + 28) 2
  let start := offset + entryHeaderSize + nameLength + extraLength
  if signature = entrySignature then
    return data.extract start (start + length)
  else
    none

/-- The entry whose header is at an offset, and the offset of the next header. -/
def entry? (data : Bytes) (directory : Directory) (offset : Nat) : Option (Entry × Nat) := do
  let signature ← field? data offset 4
  let flags ← field? data (offset + 8) 2
  let compression ← field? data (offset + 10) 2
  let modified ← field? data (offset + 12) 4
  let checksum ← field? data (offset + 16) 4
  let storedSize ← field? data (offset + 20) 4
  let size ← field? data (offset + 24) 4
  let nameLength ← field? data (offset + 28) 2
  let extraLength ← field? data (offset + 30) 2
  let commentLength ← field? data (offset + 32) 2
  let attributes ← field? data (offset + 38) 4
  let entryOffset ← field? data (offset + 42) 4
  let extraStart := offset + headerSize + nameLength
  let rawName ← slice? data (offset + headerSize) nameLength
  let extra ← slice? data extraStart extraLength
  let comment ← slice? data (extraStart + extraLength) commentLength
  let isUtf8 := flags &&& utf8Flag ≠ 0
  let description : Description :=
    { rawName, name := decoded isUtf8 rawName, comment := decoded isUtf8 comment
      compression := .ofCode compression, hasCipher := false
      size, storedSize, offset := entryOffset }
  let description ← description.withFields? extra
  let place := description.offset + directory.shift
  if signature ≠ headerSignature ∨ directory.start ≤ place then
    none
  else
    let entry : Entry :=
      { name := description.name
        compression := description.compression
        encrypted := flags &&& encryptedFlag ≠ 0 || description.hasCipher
        checksum := UInt32.ofNat checksum
        size := description.size
        data := entryData? data place description.storedSize
        modified := UInt32.ofNat modified
        attributes := UInt32.ofNat attributes }
    return (entry, extraStart + extraLength + commentLength)

/-- So many entries, the header of the first of which is at an offset. -/
def entries? (data : Bytes) (directory : Directory) :
    (count offset : Nat) → Option (List Entry)
  | 0, _ => some []
  | count + 1, offset => do
    let (entry, next) ← entry? data directory offset
    let rest ← entries? data directory count next
    return entry :: rest

/-- The archive with one more entry; one of the same name gives way to it. -/
def add (archive : Archive) (entry : Entry) : Archive :=
  if archive.any (·.name == entry.name) then
    archive.map fun earlier => if earlier.name == entry.name then entry else earlier
  else
    archive ++ [entry]

/-- The archive whose last record is at a position. -/
def archiveAt? (data : Bytes) (position : Nat) : Option Archive := do
  let directory ← directory? data position
  let entries ← entries? data directory directory.count directory.start
  return entries.foldl add []

/-- The archive whose last record is at one of the first so many positions, the furthest back. -/
def archiveBefore? (data : Bytes) : (positions : Nat) → Option Archive
  | 0 => none
  | position + 1 =>
    match archiveAt? data position with
    | some archive => some archive
    | none => archiveBefore? data position

/-- The archive that some bytes are. -/
def read (data : Bytes) : Except ArchiveError Archive :=
  match archiveBefore? data (data.size + 1 - endSize) with
  | some archive => .ok archive
  | none => .error (.container .invalid)

end DexPatch.Archive
