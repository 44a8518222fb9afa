import DexPatch.Text.Utf8

namespace DexPatch

open Text

/-!
# Pool strings in modified UTF-8

A pool string holds UTF-16 code units, each written by itself in one, two or
three bytes: zero takes the two-byte form, so that no zero byte occurs inside
a string, and a character outside the basic plane becomes two three-byte
forms.  The stored bytes are kept as they are, so that units which form no
text survive being read and written.
-/

/-- A string of the pool: its stored bytes and the length stored with them. -/
structure PoolString where
  data : List UInt8
  utf16Length : UInt32
deriving DecidableEq, Repr, Inhabited

/-- The stored form of one code unit. -/
def unitBytes (unit : UInt16) : List UInt8 :=
  let n := unit.toNat
  if 1 ≤ n ∧ n < 0x80 then
    [UInt8.ofNat n]
  else if n < 0x800 then
    [UInt8.ofNat (0xc0 + n / 64), UInt8.ofNat (0x80 + n % 64)]
  else
    [UInt8.ofNat (0xe0 + n / 4096), UInt8.ofNat (0x80 + n / 64 % 64), UInt8.ofNat (0x80 + n % 64)]

/-- The unit that stands for bytes which form none. -/
def replacementUnit : UInt16 := 0xfffd

/-- The code units of stored bytes.  The first byte alone decides how many bytes a
unit takes; of the others only the low six bits count, and where they are missing
the replacement unit stands. -/
def unitsOfBytes : List UInt8 → List UInt16
  | [] => []
  | first :: rest =>
    if first.toNat < 0x80 then
      UInt16.ofNat first.toNat :: unitsOfBytes rest
    else if first.toNat / 32 = 6 then
      match rest with
      | [] => [replacementUnit]
      | b :: rest => UInt16.ofNat (first.toNat % 32 * 64 + low6 b) :: unitsOfBytes rest
    else if first.toNat / 16 = 14 then
      match rest with
      | [] => [replacementUnit]
      | [_] => [replacementUnit]
      | b :: c :: rest =>
        UInt16.ofNat (first.toNat % 16 * 4096 + low6 b * 64 + low6 c) :: unitsOfBytes rest
    else
      replacementUnit :: unitsOfBytes rest

namespace PoolString

/-- The pool string of a text. -/
def ofText (text : String) : PoolString :=
  { data := (Text.units text).flatMap unitBytes
    utf16Length := UInt32.ofNat (Text.units text).length }

/-- The code units of a pool string, by which the pool is ordered. -/
def units (string : PoolString) : List UInt16 := unitsOfBytes string.data

/-- The text of a pool string: its bytes read as UTF-8 where that is possible, and
otherwise its code units with unpaired surrogates replaced. -/
def text (string : PoolString) : String :=
  match utf8? string.data with
  | some text => text
  | none => String.ofList (charsOfUnits string.units)

/-- Does the pool string read as the given text? -/
def reads (string : PoolString) (text : String) : Bool := string.text == text

end PoolString

end DexPatch
