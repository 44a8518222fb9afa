import DexPatch.Bytes

namespace DexPatch.Archive

/-!
# Where the directory of an archive is

An archive ends in a record that leads to its directory.  Where a number is
too large for that record, a locator stands before it and leads to a wide
record.  Whatever stands before the archive moves all of it, so that the
directory, or the wide record, is the first of its signature from the place on
where it is said to be.
-/

/-- The number in so many bytes at an offset. -/
def field? (data : Bytes) (offset width : Nat) : Option Nat :=
  (slice? data offset width).map ofLittleEndian

/-- The signature of an entry's header in the directory. -/
def headerSignature : Nat := 0x02014b50

/-- The signature of the record that an archive ends in. -/
def endSignature : Nat := 0x06054b50

/-- The signature of the wide record. -/
def wideSignature : Nat := 0x06064b50

/-- The signature of the locator. -/
def locatorSignature : Nat := 0x07064b50

/-- The size of a header in the directory without the texts behind it. -/
def headerSize : Nat := 46

/-- The size of the record that an archive ends in, without its comment. -/
def endSize : Nat := 22

/-- The size of the locator. -/
def locatorSize : Nat := 20

/-- The size of the part of the wide record that its own size does not count. -/
def wideFrame : Nat := 12

/-- The least size that a wide record can give itself. -/
def wideLeast : Nat := 44

/-- Where the directory is. -/
structure Directory where
  start : Nat
  count : Nat
  /-- The number of bytes before the archive. -/
  shift : Nat
deriving DecidableEq, Repr

/-- The first place from an offset on, of so many, that fits. -/
def firstPlace? (fits : Nat → Bool) : (remaining offset : Nat) → Option Nat
  | 0, _ => none
  | remaining + 1, offset =>
    if fits offset then some offset else firstPlace? fits remaining (offset + 1)

/-- The record that an archive ends in. -/
structure EndRecord where
  disk : Nat
  directoryDisk : Nat
  /-- The number of headers on the disk of the record. -/
  countHere : Nat
  count : Nat
  offset : Nat
deriving DecidableEq, Repr

/-- The record at a position, with its comment behind it. -/
def endRecord? (data : Bytes) (position : Nat) : Option EndRecord := do
  let signature ← field? data position 4
  let disk ← field? data (position + 4) 2
  let directoryDisk ← field? data (position + 6) 2
  let countHere ← field? data (position + 8) 2
  let count ← field? data (position + 10) 2
  let offset ← field? data (position + 16) 4
  let commentLength ← field? data (position + 20) 2
  if signature = endSignature ∧ position + endSize + commentLength ≤ data.size then
    return { disk, directoryDisk, countHere, count, offset }
  else
    none

/-- Is a number of the record such that there may be a wide record? -/
def EndRecord.isFull (record : EndRecord) : Bool :=
  record.count == 0xffff || record.offset == 0xffffffff

/-- The directory that a record at a position leads to without a wide record. -/
def EndRecord.directory? (record : EndRecord) (data : Bytes) (position : Nat) :
    Option Directory := do
  let start ←
    if record.count = 0 then
      some (max position record.offset)
    else
      firstPlace? (fun place => field? data place 4 == some headerSignature)
        (position - 3 - record.offset) record.offset
  if record.disk = record.directoryDisk then
    return { start, count := record.countHere, shift := start - record.offset }
  else
    none

/-- The locator of a wide record. -/
structure Locator where
  directoryDisk : Nat
  offset : Nat
  disks : Nat
deriving DecidableEq, Repr

/-- The locator at a position. -/
def locator? (data : Bytes) (position : Nat) : Option Locator := do
  let signature ← field? data position 4
  let directoryDisk ← field? data (position + 4) 4
  let offset ← field? data (position + 8) 8
  let disks ← field? data (position + 16) 4
  if signature = locatorSignature then
    return { directoryDisk, offset, disks }
  else
    none

/-- The locator in front of a record. -/
def locatorBefore? (data : Bytes) (position : Nat) : Option Locator :=
  if position < locatorSize then none else locator? data (position - locatorSize)

/-- The wide record. -/
structure WideRecord where
  /-- The size of the record, which does not count its first bytes. -/
  size : Nat
  madeBy : Nat
  needed : Nat
  disk : Nat
  directoryDisk : Nat
  /-- The number of headers on the disk of the record. -/
  countHere : Nat
  count : Nat
  offset : Nat
deriving DecidableEq, Repr

/-- The wide record at a position. -/
def wideRecord? (data : Bytes) (position : Nat) : Option WideRecord := do
  let signature ← field? data position 4
  let size ← field? data (position + 4) 8
  let madeBy ← field? data (position + 12) 2
  let needed ← field? data (position + 14) 2
  let disk ← field? data (position + 16) 4
  let directoryDisk ← field? data (position + 20) 4
  let countHere ← field? data (position + 24) 8
  let count ← field? data (position + 32) 8
  let offset ← field? data (position + 48) 8
  if signature = wideSignature then
    return { size, madeBy, needed, disk, directoryDisk, countHere, count, offset }
  else
    none

/-- Is a wide record at a place the one that a locator at a position means?  It reaches up to the
locator, and its headers have room before it. -/
def WideRecord.isLocated (record : WideRecord) (locator : Locator) (place position : Nat) : Bool :=
  wideLeast ≤ record.size && place + wideFrame + record.size == position &&
    record.directoryDisk == locator.directoryDisk &&
    record.count * headerSize + record.offset ≤ place

/-- The directory that a locator at a position leads to. -/
def Locator.directory? (locator : Locator) (data : Bytes) (position : Nat) :
    Option Directory := do
  if 1 < locator.disks then
    none
  else
    let place ← firstPlace?
      (fun place => (wideRecord? data place).any (·.isLocated locator place position))
      (position - 3 - locator.offset) locator.offset
    let record ← wideRecord? data place
    let shift := place - locator.offset
    if record.countHere ≤ record.count ∧ record.needed ≤ record.madeBy ∧
        record.disk = record.directoryDisk then
      return { start := record.offset + shift, count := record.count, shift }
    else
      none

/-- The directory that the record at a position leads to. -/
def directory? (data : Bytes) (position : Nat) : Option Directory := do
  let record ← endRecord? data position
  match if record.isFull then locatorBefore? data position else none with
  | some locator => locator.directory? data (position - locatorSize)
  | none => record.directory? data position

end DexPatch.Archive
