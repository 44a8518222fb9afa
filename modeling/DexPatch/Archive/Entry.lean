import DexPatch.Archive.Error
import DexPatch.Archive.Inflate
import DexPatch.Digest.Crc32

namespace DexPatch

/-!
# Archive entries

An archive is a list of named entries.  Each holds its content in some
compressed form together with a checksum of the content, and two such forms
can be read.
-/

/-- The form in which an entry holds its content. -/
inductive Compression where
  | stored
  | deflated
  | unsupported (code : Nat)
deriving DecidableEq, Repr

namespace Compression

/-- The form of a number in archives. -/
def ofCode (code : Nat) : Compression :=
  if code = 0 then .stored else if code = 8 then .deflated else .unsupported code

/-- The number of a form in archives. -/
def code : Compression → Nat
  | .stored => 0
  | .deflated => 8
  | .unsupported code => code

end Compression

/-- An entry of an archive as it is stored there. -/
structure Entry where
  name : String
  compression : Compression
  encrypted : Bool
  checksum : UInt32
  /-- The size of the content. -/
  size : Nat
  /-- The stored form of the content, none if no entry stands where the directory says. -/
  data : Option Bytes
  modified : UInt32
  attributes : UInt32
deriving DecidableEq, Repr

/-- The entries of an archive, in order; no two have the same name. -/
abbrev Archive := List Entry

namespace Entry

/-- The stored form of the content, if it can be read at all. -/
def readable (entry : Entry) : Except ArchiveError Bytes :=
  if entry.encrypted then
    .error (.container .encrypted)
  else
    match entry.data, entry.compression with
    | none, _ => .error (.container .invalid)
    | some _, .unsupported _ => .error (.container .unsupportedCompression)
    | some data, _ => .ok data

/-- The content of a stored form. -/
def expand (compression : Compression) (data : Bytes) : Except ArchiveError Bytes :=
  match compression with
  | .stored => .ok data
  | .deflated =>
    match Archive.inflate data with
    | some content => .ok content
    | none => .error (.content .corruptData)
  | .unsupported _ => .error (.container .unsupportedCompression)

/-- The content, which has to have the checksum of the entry. -/
def content (entry : Entry) : Except ArchiveError Bytes := do
  let data ← entry.readable
  let content ← expand entry.compression data
  if Digest.crc32 content = entry.checksum then
    return content
  else
    throw (.content .wrongChecksum)

/-- The time of entries whose content is new: the first that can be given. -/
def newTime : UInt32 := 0x00210000

/-- The entry with another content in the same form. -/
def withContent (entry : Entry) (content : Bytes) : Entry :=
  { entry with
    checksum := Digest.crc32 content
    size := content.size
    modified := newTime
    data := match entry.compression with
      | .deflated => some (Archive.deflate content.toList).toArray
      | _ => some content }

/-- Is the name that of an image: `classes.dex`, or with a number before the dot? -/
def isDexName (name : String) : Bool :=
  let digitsThenEnd (text : List Char) : Bool := text.dropWhile Char.isDigit == ".dex".toList
  match name.toList with
  | 'c' :: 'l' :: 'a' :: 's' :: 's' :: 'e' :: 's' :: rest => digitsThenEnd rest
  | _ => false

/-- Is the entry an image? -/
def isDex (entry : Entry) : Bool := isDexName entry.name

end Entry

end DexPatch
