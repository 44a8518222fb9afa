import DexPatch.Leb128

namespace DexPatch

/-!
# Reading at a position

Fields of known width are read at an offset.  What has no width of its own is
read by a `Cursor`, which starts at a position and, if it succeeds, leaves off
at another.  Every read is checked against the end of the data, and nothing
else is known of it: no reader depends on what stands behind the bytes it
takes.
-/

/-- A reader that starts at a position and leaves off at another. -/
abbrev Cursor := StateT Nat (Except DecodeError)

/-- The bytes at an offset. -/
def bytesAt (data : Bytes) (offset length : Nat) : Except DecodeError (List UInt8) :=
  match slice? data offset length with
  | some bytes => .ok bytes
  | none => .error (.unexpectedEnd (offset + length))

/-- The number in so many bytes at an offset. -/
def numberAt (data : Bytes) (offset width : Nat) : Except DecodeError Nat :=
  match bytesAt data offset width with
  | .ok bytes => .ok (ofLittleEndian bytes)
  | .error error => .error error

/-- The byte at an offset. -/
def u8At (data : Bytes) (offset : Nat) : Except DecodeError UInt8 :=
  match data[offset]? with
  | some byte => .ok byte
  | none => .error (.unexpectedEnd (offset + 1))

/-- The 16-bit field at an offset. -/
def u16At (data : Bytes) (offset : Nat) : Except DecodeError UInt16 := do
  return UInt16.ofNat (← numberAt data offset 2)

/-- The 32-bit field at an offset. -/
def u32At (data : Bytes) (offset : Nat) : Except DecodeError UInt32 := do
  return UInt32.ofNat (← numberAt data offset 4)

/-- The 32-bit field at an offset, as an offset or a count. -/
def natAt (data : Bytes) (offset : Nat) : Except DecodeError Nat := do
  return (← u32At data offset).toNat

/-- The results for indices from `index` on, behind those collected before, last first. -/
def collectFrom {α : Type} (item : Nat → Except DecodeError α) :
    (remaining index : Nat) → (collected : List α) → Except DecodeError (List α)
  | 0, _, collected => .ok collected.reverse
  | remaining + 1, index, collected =>
    match item index with
    | .ok x => collectFrom item remaining (index + 1) (x :: collected)
    | .error error => .error error

/-- The results for the first `count` indices; the first error ends the reading. -/
def collect {α : Type} (count : Nat) (item : Nat → Except DecodeError α) :
    Except DecodeError (List α) :=
  collectFrom item count 0 []

namespace Cursor

/-- What a cursor reads from an offset on. -/
def readAt {α : Type} (cursor : Cursor α) (offset : Nat) : Except DecodeError α :=
  match cursor offset with
  | .ok (x, _) => .ok x
  | .error error => .error error

/-- Reads one byte. -/
def byte (data : Bytes) : Cursor UInt8 := fun position =>
  match u8At data position with
  | .ok byte => .ok (byte, position + 1)
  | .error error => .error error

/-- Reads the number in so many bytes. -/
def number (data : Bytes) (width : Nat) : Cursor Nat := fun position =>
  match numberAt data position width with
  | .ok n => .ok (n, position + width)
  | .error error => .error error

/-- Reads an unsigned variable-length number. -/
def unsigned (data : Bytes) : Cursor UInt32 := Leb128.readUnsigned data

/-- Reads a signed variable-length number. -/
def signed (data : Bytes) : Cursor Int32 := Leb128.readSigned data

/-- Reads a variable-length number that may stand for an absent value. -/
def optional (data : Bytes) : Cursor (Option UInt32) := Leb128.readOptional data

/-- What a reader gives so many times, behind what it gave before, last first. -/
def timesFrom {α : Type} (reader : Cursor α) :
    (remaining : Nat) → (given : List α) → Cursor (List α)
  | 0, given => fun position => .ok (given.reverse, position)
  | remaining + 1, given => fun position =>
    match reader position with
    | .ok (x, next) => timesFrom reader remaining (x :: given) next
    | .error error => .error error

/-- What a reader gives so many times, one behind the other. -/
def times {α : Type} (count : Nat) (reader : Cursor α) : Cursor (List α) :=
  timesFrom reader count []

/-- What a reader gives so many times that starts from the number of what it gave before. -/
def ascendingFrom {α : Type} (number : α → UInt32) (reader : UInt32 → Cursor α) :
    (remaining : Nat) → (previous : UInt32) → (given : List α) → Cursor (List α)
  | 0, _, given => fun position => .ok (given.reverse, position)
  | remaining + 1, previous, given => fun position =>
    match reader previous position with
    | .ok (x, next) => ascendingFrom number reader remaining (number x) (x :: given) next
    | .error error => .error error

/-- Items whose numbers are stored as differences, so many one behind the other. -/
def ascending {α : Type} (number : α → UInt32) (count : Nat) (reader : UInt32 → Cursor α) :
    Cursor (List α) :=
  ascendingFrom number reader count 0 []

end Cursor

/-- A number that must be below the size of a pool. -/
def checked (pool : Pool) (size : Nat) (index : UInt32) : Except DecodeError UInt32 :=
  if index.toNat < size then .ok index else .error (.indexOutOfRange pool index)

end DexPatch
