import DexPatch.Container.Basic
import DexPatch.Digest.Adler32
import DexPatch.Digest.Sha1

namespace DexPatch

/-!
# The header of an image

The first 112 bytes name the format and its version, carry two digests of what
follows them, and give the count and the offset of each table.
-/

namespace Header

/-- The size of the header. -/
def size : Nat := 0x70

/-- What the tag field holds when the numbers of an image are little-endian. -/
def endianTag : UInt32 := 0x12345678

/-- What stands for the absence of a number in a table. -/
def noIndex : UInt32 := 0xffffffff

/-- The bytes before the version. -/
def magic : List UInt8 := [0x64, 0x65, 0x78, 0x0a]

end Header

/-- The kinds of section that the map at the end of an image lists. -/
inductive SectionKind where
  | header
  | stringIds
  | typeIds
  | protoIds
  | fieldIds
  | methodIds
  | classDefs
  | callSiteIds
  | methodHandles
  | mapList
  | typeLists
  | annotationSetRefLists
  | annotationSets
  | classData
  | bodies
  | stringData
  | debugInfo
  | annotations
  | encodedArrays
  | annotationDirectories
  | hiddenApi
deriving DecidableEq, Repr

/-- The number of a kind of section. -/
def SectionKind.code : SectionKind → Nat
  | .header => 0x0000
  | .stringIds => 0x0001
  | .typeIds => 0x0002
  | .protoIds => 0x0003
  | .fieldIds => 0x0004
  | .methodIds => 0x0005
  | .classDefs => 0x0006
  | .callSiteIds => 0x0007
  | .methodHandles => 0x0008
  | .mapList => 0x1000
  | .typeLists => 0x1001
  | .annotationSetRefLists => 0x1002
  | .annotationSets => 0x1003
  | .classData => 0x2000
  | .bodies => 0x2001
  | .stringData => 0x2002
  | .debugInfo => 0x2003
  | .annotations => 0x2004
  | .encodedArrays => 0x2005
  | .annotationDirectories => 0x2006
  | .hiddenApi => 0xf000

/-- A section of an image: what it holds, how many items of it, and where it starts. -/
structure Section where
  kind : SectionKind
  count : Nat
  offset : Nat
deriving DecidableEq, Repr

/-- The entry of a section in the map. -/
def Section.bytes (entry : Section) : List UInt8 :=
  le16 entry.kind.code ++ le16 0 ++ le32 entry.count ++ le32 entry.offset

/-- The written form of a map of sections. -/
def mapBytes (sections : List Section) : List UInt8 :=
  le32 sections.length ++ sections.flatMap Section.bytes

/-- An image made of a version and of all bytes behind the digests. -/
def sealed (version : Version) (body : Bytes) : Bytes :=
  let signed := (Digest.sha1 body).toArray ++ body
  (Header.magic ++ version.bytes ++ [0] ++ le32 (Digest.adler32 signed).toNat).toArray ++ signed

/-- The Adler-32 of an image: of all bytes behind the field that holds it. -/
def checksum (image : Bytes) : UInt32 := Digest.adler32 (image.extract 12 image.size)

end DexPatch
