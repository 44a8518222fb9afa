import DexPatch.Leb128
import DexPatch.Proofs.Held

namespace DexPatch.Leb128

/-!
# Variable-length numbers read back

A written number holds its base-128 digits, and a reader that finds them at
its position gives the number back and stops behind the last digit.  What
stands behind the number is of no concern, since the last digit ends it.
-/

/-- How many numbers there are of so many base-128 digits. -/
def reach : (digits : Nat) → Nat
  | 0 => 1
  | digits + 1 => 128 * reach digits

/-- Every written number has a byte at least. -/
theorem length_unsignedDigits_pos (budget n : Nat) :
    0 < (unsignedDigits (budget + 1) n).length := by
  unfold unsignedDigits
  split <;> simp

theorem length_unsigned_pos (value : UInt32) : 0 < (unsigned value).length :=
  length_unsignedDigits_pos 4 value.toNat

theorem length_signed_pos (value : Int32) : 0 < (signed value).length := by
  unfold signed maxLength signedDigits
  split <;> simp

/-- No written number is longer than its budget. -/
theorem length_unsignedDigits_le (budget n : Nat) :
    (unsignedDigits budget n).length ≤ budget := by
  induction budget generalizing n with
  | zero =>
      simp [unsignedDigits]
  | succ budget inductionHypothesis =>
      unfold unsignedDigits
      split
      · simp
      · have := inductionHypothesis (n / 128)
        simp only [List.length_cons]
        omega

theorem length_unsigned_le (value : UInt32) : (unsigned value).length ≤ 5 :=
  length_unsignedDigits_le maxLength value.toNat

/-- The digits of a number that fits the budget are found where they are held. -/
theorem scan_unsignedDigits
    {data : Bytes}
    {budget n position : Nat}
    (fits : n < reach budget)
    (positive : 0 < budget)
    (held : Holds data position (unsignedDigits budget n)) :
    ∃ payload,
      scan data budget position =
          .digits payload (position + (unsignedDigits budget n).length) ∧
        ofDigits payload = n := by
  induction budget generalizing n position with
  | zero =>
      exact absurd positive (Nat.lt_irrefl 0)
  | succ budget inductionHypothesis =>
      by_cases small : n < 128
      · simp only [unsignedDigits, small, ↓reduceIte] at held ⊢
        have low : (UInt8.ofNat n).toNat = n := by
          simp
          omega
        refine ⟨[n], ?_, rfl⟩
        simp [scan, held.head, low, small]
      · simp only [unsignedDigits, small, ↓reduceIte] at held ⊢
        have fitsRest : n / 128 < reach budget := by
          simp only [reach] at fits
          omega
        have budgetLeft : 0 < budget := by
          cases budget with
          | zero =>
              simp only [reach] at fitsRest
              omega
          | succ budget =>
              omega
        obtain ⟨payload, found, value⟩ :=
          inductionHypothesis fitsRest budgetLeft held.tail
        have digit : (UInt8.ofNat (n % 128 + 128)).toNat = n % 128 + 128 := by
          simp
          omega
        refine ⟨n % 128 :: payload, ?_, ?_⟩
        · have more : ¬ n % 128 + 128 < 128 := by omega
          simp only [scan, held.head, digit, more, ↓reduceIte, found, Nat.add_sub_cancel,
            List.length_cons, Nat.add_assoc, Nat.add_comm 1]
        · simp only [ofDigits, value]
          omega

/-- A written unsigned number reads back. -/
theorem readUnsigned_of_holds
    {data : Bytes}
    {position : Nat}
    {value : UInt32}
    (held : Holds data position (unsigned value)) :
    readUnsigned data position = .ok (value, position + (unsigned value).length) := by
  have fits : value.toNat < reach maxLength := by
    have := value.toNat_lt
    simp only [reach, maxLength]
    omega
  obtain ⟨payload, found, digits⟩ :=
    scan_unsignedDigits fits (by decide) held
  simp [readUnsigned, found, digits, unsigned]

/-- The digits of a signed number that fits the budget are found where they are held. -/
theorem scan_signedDigits
    {data : Bytes}
    {budget position : Nat}
    {i : Int}
    (low : -(64 * (reach budget : Int)) ≤ i)
    (high : i < 64 * (reach budget : Int))
    (held : Holds data position (signedDigits (budget + 1) i)) :
    ∃ payload,
      scan data (budget + 1) position =
          .digits payload (position + (signedDigits (budget + 1) i).length) ∧
        ofSignedDigits payload = i ∧
        payload ≠ [] := by
  induction budget generalizing i position with
  | zero =>
      simp only [reach] at low high
      have small : -64 ≤ i ∧ i < 64 := by omega
      simp only [signedDigits, small, and_self, ↓reduceIte] at held ⊢
      have digit : (UInt8.ofNat (i % 128).toNat).toNat = (i % 128).toNat := by
        simp
        omega
      refine ⟨[(i % 128).toNat], ?_, ?_, by simp⟩
      · simp [scan, held.head, digit]
        omega
      · simp only [ofSignedDigits]
        split <;> omega
  | succ budget inductionHypothesis =>
      by_cases small : -64 ≤ i ∧ i < 64
      · rw [signedDigits, if_pos small] at held ⊢
        have digit : (UInt8.ofNat (i % 128).toNat).toNat = (i % 128).toNat := by
          simp
          omega
        refine ⟨[(i % 128).toNat], ?_, ?_, by simp⟩
        · rw [scan]
          simp [held.head, digit]
          omega
        · simp only [ofSignedDigits]
          split <;> omega
      · rw [signedDigits, if_neg small] at held ⊢
        simp only [reach] at low high
        have lowRest : -(64 * (reach budget : Int)) ≤ i / 128 := by omega
        have highRest : i / 128 < 64 * (reach budget : Int) := by omega
        obtain ⟨payload, found, value, nonempty⟩ :=
          inductionHypothesis lowRest highRest held.tail
        have digit :
            (UInt8.ofNat ((i % 128).toNat + 128)).toNat = (i % 128).toNat + 128 := by
          simp
          omega
        refine ⟨(i % 128).toNat :: payload, ?_, ?_, by simp⟩
        · have more : ¬ (i % 128).toNat + 128 < 128 := by omega
          rw [scan]
          simp only [held.head, digit, more, ↓reduceIte, found, Nat.add_sub_cancel,
            List.length_cons, Nat.add_assoc, Nat.add_comm 1]
        · obtain ⟨next, rest, rfl⟩ := List.exists_cons_of_ne_nil nonempty
          simp only [ofSignedDigits, value]
          omega

/-- A written signed number reads back. -/
theorem readSigned_of_holds
    {data : Bytes}
    {position : Nat}
    {value : Int32}
    (held : Holds data position (signed value)) :
    readSigned data position = .ok (value, position + (signed value).length) := by
  have low := value.le_toInt
  have high := value.toInt_lt
  have fits : 64 * reach 4 = 17179869184 := rfl
  obtain ⟨payload, found, digits, -⟩ :=
    scan_signedDigits (show -(64 * (reach 4 : Int)) ≤ value.toInt by omega) (by omega) held
  simp only [readSigned, maxLength, found, digits, Int32.ofInt_toInt]
  rfl

/-- Every number but the greatest stands for itself beside the absent value. -/
theorem ofPlusOne_plusOne
    {value : Option UInt32}
    (notGreatest : value ≠ some 0xffffffff) :
    ofPlusOne (plusOne value) = value := by
  cases value with
  | none =>
      rfl
  | some value =>
      have successor : value + 1 ≠ 0 := by
        intro wraps
        apply notGreatest
        have : value = 0 - 1 := by
          rw [← wraps, UInt32.add_sub_cancel]
        rw [this]
        rfl
      simp [plusOne, ofPlusOne, successor]

/-- A written value that may be absent reads back. -/
theorem readOptional_of_holds
    {data : Bytes}
    {position : Nat}
    {value : Option UInt32}
    (notGreatest : value ≠ some 0xffffffff)
    (held : Holds data position (optional value)) :
    readOptional data position = .ok (value, position + (optional value).length) := by
  have read := readUnsigned_of_holds held
  simp [readOptional, read, ofPlusOne_plusOne notGreatest, optional]

end DexPatch.Leb128
