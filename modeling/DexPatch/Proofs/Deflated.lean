import DexPatch.Archive.Inflate
import DexPatch.Proofs.Held
import Mathlib.Algebra.Group.Nat.Defs

namespace DexPatch.Archive

/-!
# Deflated data is inflated

Data that is written in deflated form consists of blocks that hold bytes as
they are, and gives these bytes again.
-/

variable {data : Bytes}

/-! ## Bits of held bytes -/

/-- The next bit is the lowest one of its byte that has not been taken. -/
theorem nextBit_of_byte
    {start taken : Nat}
    {byte : UInt8}
    (isByte : data[start]? = some byte)
    (left : taken < 8)
    (output : Bytes) :
    (nextBit data).run { position := 8 * start + taken, output } =
      some (byte.toNat / 2 ^ taken % 2, { position := 8 * start + (taken + 1), output }) := by
  have index : (8 * start + taken) / 8 = start := by omega
  have shift : (8 * start + taken) % 8 = taken := by omega
  simp [nextBit, index, shift, isByte, Nat.shiftRight_eq_div_pow, Nat.add_assoc]

/-- The next bits of one byte are a number of so many digits. -/
theorem nextBits_of_byte
    {start taken count : Nat}
    {byte : UInt8}
    (isByte : data[start]? = some byte)
    (left : taken + count ≤ 8)
    (output : Bytes) :
    (nextBits data count).run { position := 8 * start + taken, output } =
      some (byte.toNat / 2 ^ taken % 2 ^ count,
        { position := 8 * start + (taken + count), output }) := by
  induction count generalizing taken with
  | zero =>
      simp [nextBits, Nat.mod_one]
  | succ count inductionHypothesis =>
      have low := nextBit_of_byte isByte (show taken < 8 by omega) output
      have high := inductionHypothesis (show taken + 1 + count ≤ 8 by omega)
      have digits :
          byte.toNat / 2 ^ taken % 2 + 2 * (byte.toNat / 2 ^ (taken + 1) % 2 ^ count) =
            byte.toNat / 2 ^ taken % 2 ^ (count + 1) := by
        rw [Nat.pow_succ 2 taken, ← Nat.div_div_eq_div_mul, Nat.pow_succ', Nat.mod_mul]
      simp [nextBits, low, high, digits, Nat.add_assoc, Nat.add_comm 1]

/-- Bits are taken one part after the other. -/
theorem nextBits_add (first second : Nat) :
    nextBits data (first + second) = do
      let low ← nextBits data first
      let high ← nextBits data second
      return low + 2 ^ first * high := by
  induction first with
  | zero =>
      simp [nextBits, bind_pure_comp, funext Nat.zero_add]
  | succ first inductionHypothesis =>
      rw [Nat.add_right_comm, nextBits, inductionHypothesis, nextBits]
      simp [Nat.pow_succ', Nat.mul_add, Nat.add_assoc, Nat.mul_assoc]

/-- The next eight bits are a byte. -/
theorem nextBits_eight
    {start : Nat}
    {byte : UInt8}
    (isByte : data[start]? = some byte)
    (output : Bytes) :
    (nextBits data 8).run { position := 8 * start, output } =
      some (byte.toNat, { position := 8 * (start + 1), output }) := by
  have bits := nextBits_of_byte isByte (show 0 + 8 ≤ 8 by omega) output
  rwa [Nat.pow_zero, Nat.div_one, Nat.mod_eq_of_lt byte.toNat_lt] at bits

/-- A number of 16 bits is taken from the two bytes that hold it. -/
theorem nextField_of_holds
    {start number : Nat}
    (fits : number < 65536)
    (held : Holds data start (le16 number))
    (output : Bytes) :
    (nextField data).run { position := 8 * start, output } =
      some (number, { position := 8 * (start + 2), output }) := by
  have value : number % 256 + 256 * (number / 256 % 256) = number := by omega
  rw [nextField, nextBits_add 8 8]
  simp [nextBits_eight held.head, nextBits_eight held.tail.head, value]

/-! ## Blocks -/

/-- The bytes of a block are given as they are. -/
theorem inflateStored_of_holds
    {start position : Nat}
    {bytes : List UInt8}
    (aligned : (position + 7) / 8 = start)
    (few : bytes.length ≤ largestStored)
    (held :
      Holds data start (le16 bytes.length ++ le16 (65535 - bytes.length) ++ bytes))
    (output : Bytes) :
    (inflateStored data).run { position, output } =
      some ((),
        { position := 8 * (start + 4 + bytes.length), output := output ++ bytes.toArray }) := by
  have few : bytes.length ≤ 65535 := few
  have length := nextField_of_holds (by omega) held.left.left output
  have complement := nextField_of_holds (by omega) held.left.right output
  rw [length_le16] at complement
  have whole : bytes.length + (65535 - bytes.length) = 65535 := by omega
  have content : Holds data (start + 2 + 2) bytes := held.right
  have inside : ¬ data.size < start + 2 + 2 + bytes.length := Nat.not_lt.mpr content.le_size
  have copied : data.extract (start + 2 + 2) (start + 2 + 2 + bytes.length) = bytes.toArray :=
    Array.toList_inj.mp content.extract
  have behind : 8 * (start + 2 + 2) + 8 * bytes.length = 8 * (start + 4 + bytes.length) := by omega
  simp [inflateStored, aligned, Nat.mul_comm start 8, length, complement, whole, inside, copied,
    behind]

/-- A block that holds bytes as they are is read up to its end, which tells if it is the last. -/
theorem nextBits_of_header
    {start : Nat}
    {last : Bool}
    (held : data[start]? = some (if last then 1 else 0))
    (output : Bytes) :
    (nextBit data).run { position := 8 * start, output } =
        some (if last then 1 else 0, { position := 8 * start + 1, output }) ∧
      (nextBits data 2).run { position := 8 * start + 1, output } =
        some (0, { position := 8 * start + 3, output }) := by
  have first := nextBit_of_byte held (show 0 < 8 by omega) output
  have second := nextBits_of_byte held (show 1 + 2 ≤ 8 by omega) output
  cases last with
  | false => exact ⟨first, second⟩
  | true => exact ⟨first, second⟩

/-- One block is read, and the blocks behind it if it is not the last. -/
theorem inflateBlocks_of_block
    {start bound : Nat}
    {last : Bool}
    {bytes : List UInt8}
    (few : bytes.length ≤ largestStored)
    (held : Holds data start (storedBlock last bytes))
    (output : Bytes) :
    (inflateBlocks data (bound + 1)).run { position := 8 * start, output } =
      if last then
        some ((),
          { position := 8 * (start + 5 + bytes.length), output := output ++ bytes.toArray })
      else
        (inflateBlocks data bound).run
          { position := 8 * (start + 5 + bytes.length), output := output ++ bytes.toArray } := by
  obtain ⟨isLast, isStored⟩ := nextBits_of_header held.head output
  have aligned : (8 * start + 3 + 7) / 8 = start + 1 := by omega
  have content := inflateStored_of_holds aligned few held.tail output
  have behind : start + 1 + 4 + bytes.length = start + 5 + bytes.length := by omega
  rw [behind] at content
  cases last <;> simp [inflateBlocks, inflateBlock, isLast, isStored, content]

/-- The bytes that were written in deflated form are given again, whatever stands around them. -/
theorem inflateBlocks_of_holds
    {start bound : Nat}
    {bytes : List UInt8}
    (held : Holds data start (deflate bytes))
    (enough : bytes.length ≤ bound)
    (output : Bytes) :
    ∃ position,
      (inflateBlocks data (bound + 1)).run { position := 8 * start, output } =
        some ((), { position, output := output ++ bytes.toArray }) := by
  induction bytes using deflate.induct generalizing start bound output with
  | case1 bytes few =>
      rw [deflate, if_pos few] at held
      exact ⟨_, inflateBlocks_of_block few held output⟩
  | case2 bytes many inductionHypothesis =>
      rw [deflate, if_neg many] at held
      have full : (bytes.take largestStored).length = largestStored :=
        List.length_take_of_le (Nat.le_of_not_le many)
      -- The block that is full uses up one of the bound, and at least one byte of the length.
      obtain ⟨bound, rfl⟩ := Nat.exists_eq_succ_of_ne_zero (show bound ≠ 0 by omega)
      have rest : (bytes.drop largestStored).length ≤ bound := by
        rw [List.length_drop]
        simp only [largestStored] at many ⊢
        omega
      have behind : Holds data (start + 5 + largestStored) (deflate (bytes.drop largestStored)) := by
        refine held.right.congr_offset ?_
        simp [storedBlock, full]
        omega
      obtain ⟨position, read⟩ :=
        inductionHypothesis behind rest (output ++ (bytes.take largestStored).toArray)
      have parts :
          output ++ (bytes.take largestStored).toArray ++ (bytes.drop largestStored).toArray =
            output ++ bytes.toArray :=
        Array.toList_inj.mp (by simp)
      rw [parts] at read
      refine ⟨position, ?_⟩
      rw [inflateBlocks_of_block (Nat.le_of_eq full) held.left output, full]
      exact read

/-- Deflated data is no shorter than the bytes that it was made of. -/
theorem length_le_deflate (bytes : List UInt8) : bytes.length ≤ (deflate bytes).length := by
  induction bytes using deflate.induct with
  | case1 bytes few =>
      rw [deflate, if_pos few, storedBlock]
      simp
      omega
  | case2 bytes many inductionHypothesis =>
      rw [deflate, if_neg many, storedBlock]
      simp only [List.length_append, List.length_cons, List.length_drop, List.length_take] at *
      omega

/-- Data in deflated form gives the bytes that it was made of. -/
theorem inflate_deflate (bytes : Bytes) : inflate (deflate bytes.toList).toArray = some bytes := by
  have enough : bytes.toList.length ≤ 8 * (deflate bytes.toList).toArray.size := by
    have noShorter := length_le_deflate bytes.toList
    rw [List.size_toArray]
    omega
  obtain ⟨position, read⟩ :=
    inflateBlocks_of_holds (Holds.whole (deflate bytes.toList).toArray) enough #[]
  rw [inflate]
  simp only [Nat.mul_zero] at read
  rw [read]
  simp

end DexPatch.Archive
