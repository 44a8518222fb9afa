import DexPatch.Bytes
import DexPatch.Error

namespace DexPatch.Leb128

/-!
# Variable-length numbers

A number is written as base-128 digits, least significant first, one a byte,
with the high bit set on all but the last.  No number takes more than five
bytes.  A reader takes what it finds, shortest form or not, keeps the low 32
bits, and extends the sign of a signed number that has bits left to extend.
-/

/-- What looking for the end of a number came to; `stop` follows the last byte taken. -/
inductive Scan where
  | digits (payload : List Nat) (stop : Nat)
  | truncated (stop : Nat)
  | overlong (stop : Nat)
deriving DecidableEq, Repr

/-- The digits that start at a position, at most `budget` of them. -/
def scan (data : Bytes) : (budget position : Nat) → Scan
  | 0, position => .overlong position
  | budget + 1, position =>
    match data[position]? with
    | none => .truncated position
    | some byte =>
      if byte.toNat < 128 then
        .digits [byte.toNat] (position + 1)
      else
        match scan data budget (position + 1) with
        | .digits payload stop => .digits ((byte.toNat - 128) :: payload) stop
        | .truncated stop => .truncated stop
        | .overlong stop => .overlong stop

/-- The position at which looking for the end of a number stopped. -/
def Scan.stop : Scan → Nat
  | .digits _ stop => stop
  | .truncated stop => stop
  | .overlong stop => stop

/-- The most bytes that one number takes. -/
def maxLength : Nat := 5

/-- The position at which a reader of one number stops, whether or not it succeeds. -/
def stopAfter (data : Bytes) (position : Nat) : Nat := (scan data maxLength position).stop

/-- The number whose base-128 digits, least significant first, are given. -/
def ofDigits : List Nat → Nat
  | [] => 0
  | digit :: rest => digit + 128 * ofDigits rest

/-- The number whose digits are given, negative if the last digit has its bit 6 set. -/
def ofSignedDigits : List Nat → Int
  | [] => 0
  | [digit] => if digit < 64 then digit else (digit : Int) - 128
  | digit :: rest => digit + 128 * ofSignedDigits rest

/-- Reads an unsigned number: its value and the position after it. -/
def readUnsigned (data : Bytes) (position : Nat) : Except DecodeError (UInt32 × Nat) :=
  match scan data maxLength position with
  | .digits payload stop => .ok (UInt32.ofNat (ofDigits payload), stop)
  | .truncated stop => .error (.unexpectedEnd stop)
  | .overlong _ => .error (.malformed .unsignedNumber position)

/-- Reads a signed number: its value and the position after it. -/
def readSigned (data : Bytes) (position : Nat) : Except DecodeError (Int32 × Nat) :=
  match scan data maxLength position with
  | .digits payload stop => .ok (Int32.ofInt (ofSignedDigits payload), stop)
  | .truncated stop => .error (.unexpectedEnd stop)
  | .overlong _ => .error (.malformed .signedNumber position)

/-- The absent value is zero, and any other value is one less than the number. -/
def ofPlusOne (number : UInt32) : Option UInt32 :=
  if number = 0 then none else some (number - 1)

/-- The number that stands for a value which may be absent. -/
def plusOne : Option UInt32 → UInt32
  | none => 0
  | some value => value + 1

/-- Reads a value that may be absent, and the position after it. -/
def readOptional (data : Bytes) (position : Nat) : Except DecodeError (Option UInt32 × Nat) :=
  match readUnsigned data position with
  | .ok (number, stop) => .ok (ofPlusOne number, stop)
  | .error error => .error error

/-- The shortest digits of a number that fits the budget. -/
def unsignedDigits : (budget n : Nat) → List UInt8
  | 0, _ => []
  | budget + 1, n =>
    if n < 128 then
      [UInt8.ofNat n]
    else
      UInt8.ofNat (n % 128 + 128) :: unsignedDigits budget (n / 128)

/-- The shortest digits of a signed number that fits the budget. -/
def signedDigits : (budget : Nat) → (i : Int) → List UInt8
  | 0, _ => []
  | budget + 1, i =>
    if -64 ≤ i ∧ i < 64 then
      [UInt8.ofNat (i % 128).toNat]
    else
      UInt8.ofNat ((i % 128).toNat + 128) :: signedDigits budget (i / 128)

/-- The written form of an unsigned number. -/
def unsigned (value : UInt32) : List UInt8 := unsignedDigits maxLength value.toNat

/-- The written form of a signed number. -/
def signed (value : Int32) : List UInt8 := signedDigits maxLength value.toInt

/-- The written form of a value that may be absent. -/
def optional (value : Option UInt32) : List UInt8 := unsigned (plusOne value)

end DexPatch.Leb128
