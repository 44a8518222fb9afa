namespace DexPatch

/-!
# Byte strings and little-endian numbers

An image is an array of bytes, and short pieces of it are lists.  A number is
stored as its base-256 digits, least significant first; `littleEndian` writes
a fixed count of digits and `ofLittleEndian` sums digits up again.
-/

/-- The bytes of an image, an archive or a file. -/
abbrev Bytes := Array UInt8

/-- How many numbers there are of so many base-256 digits. -/
def capacity : (width : Nat) → Nat
  | 0 => 1
  | width + 1 => 256 * capacity width

/-- The lowest `width` base-256 digits of a number, least significant first. -/
def littleEndian : (width : Nat) → Nat → List UInt8
  | 0, _ => []
  | width + 1, n => UInt8.ofNat n :: littleEndian width (n / 256)

/-- The number whose base-256 digits, least significant first, are given. -/
def ofLittleEndian : List UInt8 → Nat
  | [] => 0
  | byte :: rest => byte.toNat + 256 * ofLittleEndian rest

/-- A 16-bit field. -/
def le16 (n : Nat) : List UInt8 := littleEndian 2 n

/-- A 32-bit field. -/
def le32 (n : Nat) : List UInt8 := littleEndian 4 n

/-- The number of zero bytes that lead from `position` to the next multiple of `unit`. -/
def padding (unit position : Nat) : Nat := (unit - position % unit) % unit

/-- The bytes of `data` at `offset`, if all `length` of them are there. -/
def slice? (data : Bytes) (offset length : Nat) : Option (List UInt8) :=
  if offset + length ≤ data.size then
    some (data.extract offset (offset + length)).toList
  else
    none

@[simp] theorem length_littleEndian (width n : Nat) : (littleEndian width n).length = width := by
  induction width generalizing n with
  | zero => rfl
  | succ width ih => simp [littleEndian, ih]

/-- Reading digits back loses only what did not fit. -/
theorem ofLittleEndian_littleEndian (width n : Nat) :
    ofLittleEndian (littleEndian width n) = n % capacity width := by
  induction width generalizing n with
  | zero => simp [littleEndian, ofLittleEndian, capacity, Nat.mod_one]
  | succ width ih =>
    have digit : (UInt8.ofNat n).toNat = n % 256 := by simp
    rw [littleEndian, ofLittleEndian, ih, digit, capacity, Nat.mod_mul]

theorem ofLittleEndian_lt (digits : List UInt8) :
    ofLittleEndian digits < capacity digits.length := by
  induction digits with
  | nil => simp [ofLittleEndian, capacity]
  | cons byte rest ih =>
    have := byte.toNat_lt
    simp only [ofLittleEndian, List.length_cons, capacity]
    omega

end DexPatch
