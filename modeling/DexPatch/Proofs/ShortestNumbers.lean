import Mathlib.Data.Nat.Digits.Defs
import DexPatch.Proofs.Reading

namespace DexPatch

/-!
# Variable-length numbers in their shortest form

A reader takes the bytes up to the first one whose high bit is clear, five at
most, and these are the base-128 digits of what it gives, whether or not the
form is the shortest.  A number of few bytes is small, and a small number is
written in few bytes, so that no bytes shorter than the written form are read
as the same number.
-/

/-- The written form is read back whatever stands in front of it and behind it, and nothing that is
read as the same value takes fewer bytes. -/
structure Cursor.ReadsShortest
    {α : Type}
    (reader : Bytes → Cursor α)
    (written : List UInt8)
    (value : α) :
    Prop where
  reads :
    ∀ front back : List UInt8,
      reader (front ++ written ++ back).toArray front.length =
        .ok (value, (front ++ written).length)
  shortest :
    ∀ data position stop,
      reader data position = .ok (value, stop) → position + written.length ≤ stop

/-- What is read wherever it is held is read whatever stands around it. -/
theorem Cursor.Reads.between
    {α : Type}
    {reader : Bytes → Cursor α}
    {written : List UInt8}
    {value : α}
    (reads : Cursor.Reads reader written value)
    (front back : List UInt8) :
    reader (front ++ written ++ back).toArray front.length =
      .ok (value, (front ++ written).length) := by
  rw [List.length_append]
  exact reads (Holds.iff_exists.mpr ⟨front, back, rfl, rfl⟩)

namespace Leb128

/-! ## What a reader takes -/

/-- One number stands between two positions: bytes with their high bit set, fewer than five, and one
with its high bit clear behind them. -/
structure Spans
    (data : Bytes)
    (position stop : Nat)
    (leading : List UInt8)
    (last : UInt8) :
    Prop where
  held : Holds data position (leading ++ [last])
  stop : stop = position + leading.length + 1
  short : leading.length < 5
  continued : ∀ byte ∈ leading, 128 ≤ byte.toNat
  ended : last.toNat < 128

/-- The sum of the low seven bits of the bytes, least significant first. -/
def digitSum (leading : List UInt8) (last : UInt8) : Nat :=
  Nat.ofDigits 128 ((leading ++ [last]).map fun byte => byte.toNat % 128)

/-- The sum of the bytes, with the sign that bit 6 of the last one gives a number that has bits left
to extend it into. -/
def signedSum (leading : List UInt8) (last : UInt8) : Int :=
  if leading.length + 1 < 5 ∧ 64 ≤ last.toNat then
    (digitSum leading last : Int) - 128 ^ (leading.length + 1)
  else
    digitSum leading last

theorem digitSum_nil {last : UInt8} (ended : last.toNat < 128) :
    digitSum [] last = last.toNat := by
  simp [digitSum, Nat.mod_eq_of_lt ended]

theorem digitSum_cons (byte : UInt8) (leading : List UInt8) (last : UInt8) :
    digitSum (byte :: leading) last = byte.toNat % 128 + 128 * digitSum leading last := by
  simp [digitSum, Nat.ofDigits_cons]

/-- Looking for the end of a number starts at its position and takes at most the budget. -/
theorem stop_scan (data : Bytes) (budget position : Nat) :
    position ≤ (scan data budget position).stop ∧
      (scan data budget position).stop ≤ position + budget := by
  induction budget generalizing position with
  | zero =>
      simp [scan, Scan.stop]
  | succ budget inductionHypothesis =>
      rw [scan]
      split
      · simp [Scan.stop]
      · split
        · simp [Scan.stop]
        · have later := inductionHypothesis (position + 1)
          cases found : scan data budget (position + 1) <;> rw [found] at later <;>
            simp only [Scan.stop] at later ⊢ <;> omega

/-- Digits that are found are the low bits of bytes that stand where they were looked for. -/
theorem exists_of_scan
    {data : Bytes}
    {budget position stop : Nat}
    {payload : List Nat}
    (found : scan data budget position = .digits payload stop) :
    ∃ leading last,
      Holds data position (leading ++ [last]) ∧
        stop = position + leading.length + 1 ∧
        leading.length < budget ∧
        (∀ byte ∈ leading, 128 ≤ byte.toNat) ∧
        last.toNat < 128 ∧
        payload = (leading ++ [last]).map fun byte => byte.toNat % 128 := by
  induction budget generalizing position payload with
  | zero =>
      cases found
  | succ budget inductionHypothesis =>
      rw [scan] at found
      cases here : data[position]? with
      | none =>
          simp [here] at found
      | some byte =>
          simp only [here] at found
          split at found
          · next ended =>
              cases found
              have inside := (Array.getElem?_eq_some_iff.mp here).1
              refine
                ⟨[], byte, Holds.cons here (Holds.nil inside), rfl, by simp, by simp, ended, ?_⟩
              simp [Nat.mod_eq_of_lt ended]
          · next continued =>
              cases later : scan data budget (position + 1) with
              | digits digits last =>
                  simp only [later, Scan.digits.injEq] at found
                  obtain ⟨rfl, rfl⟩ := found
                  obtain ⟨leading, last, held, rfl, short, others, ended, rfl⟩ :=
                    inductionHypothesis later
                  refine ⟨byte :: leading, last, Holds.cons here held, ?_, ?_, ?_, ended, ?_⟩
                  · simp only [List.length_cons]
                    omega
                  · simpa using short
                  · exact List.forall_mem_cons.mpr ⟨by omega, others⟩
                  · have small := byte.toNat_lt
                    have digit : byte.toNat - 128 = byte.toNat % 128 := by omega
                    simp [digit]
              | truncated last | overlong last =>
                  simp [later] at found

/-- The digits of a reader that succeeds span what it has taken. -/
theorem spans_of_scan
    {data : Bytes}
    {position stop : Nat}
    {payload : List Nat}
    (found : scan data maxLength position = .digits payload stop) :
    stop = stopAfter data position ∧
      ∃ leading last,
        Spans data position stop leading last ∧
          payload = (leading ++ [last]).map fun byte => byte.toNat % 128 := by
  refine ⟨by rw [stopAfter, found, Scan.stop], ?_⟩
  obtain ⟨leading, last, held, isStop, short, continued, ended, digits⟩ := exists_of_scan found
  exact ⟨leading, last, ⟨held, isStop, short, continued, ended⟩, digits⟩

/-! ## What a reader gives -/

theorem ofDigits_eq (digits : List Nat) : ofDigits digits = Nat.ofDigits 128 digits := by
  induction digits with
  | nil =>
      rfl
  | cons digit rest inductionHypothesis =>
      simp [ofDigits, Nat.ofDigits_cons, inductionHypothesis]

/-- Digits are negative by their last bit, however many there are. -/
theorem ofSignedDigits_eq
    {leading : List UInt8}
    {last : UInt8}
    (ended : last.toNat < 128) :
    ofSignedDigits ((leading ++ [last]).map fun byte => byte.toNat % 128) =
      if 64 ≤ last.toNat then
        (digitSum leading last : Int) - 128 ^ (leading.length + 1)
      else
        digitSum leading last := by
  induction leading with
  | nil =>
      rw [digitSum_nil ended]
      simp only [List.nil_append, List.map_cons, List.map_nil, ofSignedDigits,
        Nat.mod_eq_of_lt ended]
      split <;> split <;> simp <;> omega
  | cons byte leading inductionHypothesis =>
      obtain ⟨digit, rest, shape⟩ :
          ∃ digit rest,
            ((leading ++ [last]).map fun byte => byte.toNat % 128) = digit :: rest := by
        apply List.exists_cons_of_ne_nil
        simp
      rw [List.cons_append, List.map_cons, shape, ofSignedDigits, ← shape, inductionHypothesis,
        digitSum_cons]
      · split
        · push_cast
          rw [List.length_cons, pow_succ _ (leading.length + 1)]
          ring
        · push_cast
          rfl
      · simp

/-- A sign that reaches beyond 32 bits makes no difference to a number of 32 bits. -/
theorem bmod_ofSignedDigits
    {leading : List UInt8}
    {last : UInt8}
    (short : leading.length < 5)
    (ended : last.toNat < 128) :
    (ofSignedDigits ((leading ++ [last]).map fun byte => byte.toNat % 128)).bmod 4294967296 =
      (signedSum leading last).bmod 4294967296 := by
  rw [ofSignedDigits_eq ended, signedSum]
  by_cases few : leading.length + 1 < 5
  · simp only [few, true_and]
  · have five : leading.length + 1 = 5 := by omega
    have beyond : (128 : Int) ^ 5 = 8 * (4294967296 : Nat) := rfl
    simp only [five, lt_self_iff_false, false_and, ↓reduceIte]
    split
    · rw [beyond, Int.sub_mul_bmod_self_right]
    · rfl

/-- An unsigned number is the sum of what was taken, as far as 32 bits hold it. -/
theorem spans_of_readUnsigned
    {data : Bytes}
    {position stop : Nat}
    {value : UInt32}
    (read : readUnsigned data position = .ok (value, stop)) :
    stop = stopAfter data position ∧
      ∃ leading last,
        Spans data position stop leading last ∧
          value.toNat = digitSum leading last % 4294967296 := by
  rw [readUnsigned] at read
  cases found : scan data maxLength position with
  | digits payload last =>
      simp only [found, Except.ok.injEq, Prod.mk.injEq] at read
      obtain ⟨rfl, rfl⟩ := read
      obtain ⟨isStop, leading, last, spans, rfl⟩ := spans_of_scan found
      exact ⟨isStop, leading, last, spans, by rw [ofDigits_eq, UInt32.toNat_ofNat']; rfl⟩
  | truncated last | overlong last =>
      simp [found] at read

/-- A signed number is the sum of what was taken with its sign, as far as 32 bits hold it. -/
theorem spans_of_readSigned
    {data : Bytes}
    {position stop : Nat}
    {value : Int32}
    (read : readSigned data position = .ok (value, stop)) :
    stop = stopAfter data position ∧
      ∃ leading last,
        Spans data position stop leading last ∧
          value.toInt = (signedSum leading last).bmod 4294967296 := by
  rw [readSigned] at read
  cases found : scan data maxLength position with
  | digits payload last =>
      simp only [found, Except.ok.injEq, Prod.mk.injEq] at read
      obtain ⟨rfl, rfl⟩ := read
      obtain ⟨isStop, leading, last, spans, rfl⟩ := spans_of_scan found
      refine ⟨isStop, leading, last, spans, ?_⟩
      rw [Int32.toInt_ofInt, ← bmod_ofSignedDigits spans.short spans.ended]
  | truncated last | overlong last =>
      simp [found] at read

/-- The number that is read stands for a value one less than it, and zero for the absent value. -/
theorem elim_ofPlusOne (number : UInt32) :
    (ofPlusOne number).elim 0 (·.toNat + 1) = number.toNat ∧
      plusOne (ofPlusOne number) = number := by
  by_cases absent : number = 0
  · simp [ofPlusOne, plusOne, absent]
  · have positive : 0 < number.toNat :=
      Nat.pos_of_ne_zero fun zero => absent (UInt32.toNat_inj.mp zero)
    have oneLess : (number - 1).toNat = number.toNat - 1 :=
      UInt32.toNat_sub_of_le number 1 (UInt32.le_iff_toNat_le.mpr positive)
    simp only [ofPlusOne, plusOne, absent, ↓reduceIte, Option.elim_some, oneLess,
      UInt32.sub_add_cancel, and_true]
    omega

/-- A value that may be absent is read where the number that stands for it is. -/
theorem readUnsigned_of_readOptional
    {data : Bytes}
    {position stop : Nat}
    {value : Option UInt32}
    (read : readOptional data position = .ok (value, stop)) :
    readUnsigned data position = .ok (plusOne value, stop) ∧
      value.elim 0 (·.toNat + 1) = (plusOne value).toNat := by
  rw [readOptional] at read
  cases found : readUnsigned data position with
  | error error =>
      simp [found] at read
  | ok result =>
      obtain ⟨number, next⟩ := result
      simp only [found, Except.ok.injEq, Prod.mk.injEq] at read
      obtain ⟨rfl, rfl⟩ := read
      obtain ⟨isNumber, back⟩ := elim_ofPlusOne number
      rw [back]
      exact ⟨rfl, isNumber⟩

/-! ## No shorter form -/

theorem digitSum_lt (leading : List UInt8) {last : UInt8} (ended : last.toNat < 128) :
    digitSum leading last < reach (leading.length + 1) := by
  induction leading with
  | nil =>
      rw [digitSum_nil ended]
      simpa [reach] using ended
  | cons byte leading inductionHypothesis =>
      rw [digitSum_cons, List.length_cons, reach]
      omega

theorem pow_eq_reach (count : Nat) : 128 ^ count = reach count := by
  induction count with
  | zero =>
      rfl
  | succ count inductionHypothesis =>
      rw [pow_succ, inductionHypothesis, reach, Nat.mul_comm]

/-- A sum whose last bit is clear, or that a sign is taken from, is halfway to its bound. -/
theorem digitSum_half (leading : List UInt8) {last : UInt8} (ended : last.toNat < 128) :
    (64 ≤ last.toNat → 64 * reach leading.length ≤ digitSum leading last) ∧
      (last.toNat < 64 → digitSum leading last < 64 * reach leading.length) := by
  induction leading with
  | nil =>
      rw [digitSum_nil ended]
      simp [reach]
  | cons byte leading inductionHypothesis =>
      rw [digitSum_cons, List.length_cons, reach]
      omega

/-- Few bytes give a signed number that is close to zero. -/
theorem signedSum_bounds
    {leading : List UInt8}
    {last : UInt8}
    (few : leading.length + 1 < 5)
    (ended : last.toNat < 128) :
    -(64 * (reach leading.length : Int)) ≤ signedSum leading last ∧
      signedSum leading last < 64 * (reach leading.length : Int) := by
  have below := digitSum_lt leading ended
  obtain ⟨high, low⟩ := digitSum_half leading ended
  have power : (128 : Int) ^ (leading.length + 1) = (reach (leading.length + 1) : Nat) := by
    rw [← pow_eq_reach]
    push_cast
    rfl
  rw [reach] at below
  simp only [signedSum, few, true_and, power, reach]
  split
  · have := high ‹_›
    omega
  · have := low (by omega)
    omega

/-- A number below the reach of some bytes is written in no more. -/
theorem length_unsignedDigits_le_of_lt
    {count n : Nat}
    (budget : Nat)
    (positive : 0 < count)
    (small : n < reach count) :
    (unsignedDigits budget n).length ≤ count := by
  induction budget generalizing n count with
  | zero =>
      simp [unsignedDigits]
  | succ budget inductionHypothesis =>
      rw [unsignedDigits]
      split
      · exact positive
      · next large =>
          obtain ⟨fewer, rfl⟩ := Nat.exists_eq_add_one.mpr positive
          rw [reach] at small
          have more : 0 < fewer := by
            cases fewer with
            | zero =>
                simp only [reach] at small
                omega
            | succ fewer =>
                omega
          have rest := inductionHypothesis more (show n / 128 < reach fewer by omega)
          simpa using rest

/-- A number as close to zero as some bytes reach is written in no more. -/
theorem length_signedDigits_le_of_bounds
    {count : Nat}
    {i : Int}
    (budget : Nat)
    (low : -(64 * (reach count : Int)) ≤ i)
    (high : i < 64 * (reach count : Int)) :
    (signedDigits budget i).length ≤ count + 1 := by
  induction budget generalizing i count with
  | zero =>
      simp [signedDigits]
  | succ budget inductionHypothesis =>
      rw [signedDigits]
      split
      · simp
      · next large =>
          cases count with
          | zero =>
              simp only [reach] at low high
              omega
          | succ count =>
              simp only [reach] at low high
              have rest :=
                inductionHypothesis (show -(64 * (reach count : Int)) ≤ i / 128 by omega)
                  (by omega)
              simpa using rest

theorem length_signedDigits_le (budget : Nat) (i : Int) :
    (signedDigits budget i).length ≤ budget := by
  induction budget generalizing i with
  | zero =>
      simp [signedDigits]
  | succ budget inductionHypothesis =>
      rw [signedDigits]
      split
      · simp
      · simpa using inductionHypothesis (i / 128)

theorem length_signed_le (value : Int32) : (signed value).length ≤ 5 :=
  length_signedDigits_le maxLength value.toInt

/-- Nothing that is read as an unsigned number takes fewer bytes than its written form. -/
theorem length_unsigned_le_of_read
    {data : Bytes}
    {position stop : Nat}
    {value : UInt32}
    (read : readUnsigned data position = .ok (value, stop)) :
    position + (unsigned value).length ≤ stop := by
  obtain ⟨-, leading, last, spans, isSum⟩ := spans_of_readUnsigned read
  have isStop := spans.stop
  have below := digitSum_lt leading spans.ended
  have atMost : value.toNat ≤ digitSum leading last := isSum ▸ Nat.mod_le _ _
  have short : (unsigned value).length ≤ leading.length + 1 :=
    length_unsignedDigits_le_of_lt maxLength (Nat.succ_pos _) (by omega)
  omega

/-- Nothing that is read as a signed number takes fewer bytes than its written form. -/
theorem length_signed_le_of_read
    {data : Bytes}
    {position stop : Nat}
    {value : Int32}
    (read : readSigned data position = .ok (value, stop)) :
    position + (signed value).length ≤ stop := by
  obtain ⟨-, leading, last, spans, isSum⟩ := spans_of_readSigned read
  have isStop := spans.stop
  have short := spans.short
  by_cases few : leading.length + 1 < 5
  · obtain ⟨low, high⟩ := signedSum_bounds few spans.ended
    have inside : 64 * reach leading.length ≤ 64 * reach 3 := by
      rw [← pow_eq_reach, ← pow_eq_reach]
      exact Nat.mul_le_mul_left _ (Nat.pow_le_pow_right (by decide) (by omega))
    have limit : 64 * reach 3 = 134217728 := rfl
    have same : value.toInt = signedSum leading last := by
      rw [isSum]
      exact Int.bmod_eq_of_le (by omega) (by omega)
    have written : (signed value).length ≤ leading.length + 1 :=
      length_signedDigits_le_of_bounds maxLength (by omega) (by omega)
    omega
  · have written := length_signed_le value
    omega

/-! ## Numbers written and read -/

/-- Every number, but the greatest one beside the absent value, is read back from its written form,
which has at most five bytes and is the shortest that is read as the number.  Wherever a reader
starts, it takes at most five bytes, and what it gives is the sum of the base-128 digits in them, as
far as 32 bits hold it, with its sign extended if it is signed and has bits left. -/
theorem readsShortest_and_spans :
    (∀ value,
        Cursor.ReadsShortest Cursor.unsigned (unsigned value) value ∧
          (unsigned value).length ≤ 5) ∧
      (∀ value,
        Cursor.ReadsShortest Cursor.signed (signed value) value ∧ (signed value).length ≤ 5) ∧
      (∀ value, value ≠ some 0xffffffff →
        Cursor.ReadsShortest Cursor.optional (optional value) value ∧
          (optional value).length ≤ 5) ∧
      (∀ data position,
        position ≤ stopAfter data position ∧ stopAfter data position ≤ position + 5) ∧
      (∀ data position value stop,
        Cursor.unsigned data position = .ok (value, stop) →
          stop = stopAfter data position ∧
            ∃ leading last,
              Spans data position stop leading last ∧
                value.toNat = digitSum leading last % 4294967296) ∧
      (∀ data position value stop,
        Cursor.signed data position = .ok (value, stop) →
          stop = stopAfter data position ∧
            ∃ leading last,
              Spans data position stop leading last ∧
                value.toInt = (signedSum leading last).bmod 4294967296) ∧
      (∀ data position value stop,
        Cursor.optional data position = .ok (value, stop) →
          stop = stopAfter data position ∧
            ∃ leading last,
              Spans data position stop leading last ∧
                value.elim 0 (·.toNat + 1) = digitSum leading last % 4294967296) := by
  refine ⟨fun value => ⟨⟨(Cursor.Reads.unsigned value).between, ?_⟩, length_unsigned_le value⟩,
    fun value => ⟨⟨(Cursor.Reads.signed value).between, ?_⟩, length_signed_le value⟩,
    fun value notGreatest =>
      ⟨⟨(Cursor.Reads.optional notGreatest).between, ?_⟩, length_unsigned_le (plusOne value)⟩,
    fun data position => stop_scan data maxLength position,
    fun data position value stop => spans_of_readUnsigned,
    fun data position value stop => spans_of_readSigned, ?_⟩
  · exact fun data position stop => length_unsigned_le_of_read
  · exact fun data position stop => length_signed_le_of_read
  · exact fun data position stop read =>
      length_unsigned_le_of_read (readUnsigned_of_readOptional read).1
  · intro data position value stop read
    obtain ⟨readsNumber, isNumber⟩ := readUnsigned_of_readOptional read
    rw [isNumber]
    exact spans_of_readUnsigned readsNumber

/-- Five bytes with more bits than a number has: the bits beyond 32 are dropped, and no sign is
extended. -/
theorem readsShortest_and_spans_overfull :
    let data : Bytes := #[0xff, 0xff, 0xff, 0xff, 0x7f]
    some 0xfffffffe ≠ some (0xffffffff : UInt32) ∧
      Cursor.unsigned data 0 = .ok (0xffffffff, 5) ∧
      Cursor.signed data 0 = .ok (-1, 5) ∧
      Cursor.optional data 0 = .ok (some 0xfffffffe, 5) ∧
      0 + (unsigned 0xffffffff).length ≤ 5 ∧
      0 + (signed (-1)).length ≤ 5 ∧
      0 + (optional (some 0xfffffffe)).length ≤ 5 ∧
      (∃ leading last,
        Spans data 0 5 leading last ∧
          (0xffffffff : UInt32).toNat = digitSum leading last % 4294967296) ∧
      (∃ leading last,
        Spans data 0 5 leading last ∧
          (-1 : Int32).toInt = (signedSum leading last).bmod 4294967296) ∧
      ∃ leading last,
        Spans data 0 5 leading last ∧
          (some (0xfffffffe : UInt32)).elim 0 (·.toNat + 1) =
            digitSum leading last % 4294967296 := by
  intro data
  have notGreatest : some 0xfffffffe ≠ some (0xffffffff : UInt32) := by decide
  have readsUnsigned : Cursor.unsigned data 0 = .ok (0xffffffff, 5) := by decide
  have readsSigned : Cursor.signed data 0 = .ok (-1, 5) := by decide
  have readsOptional : Cursor.optional data 0 = .ok (some 0xfffffffe, 5) := by decide
  obtain ⟨ofUnsigned, ofSigned, ofOptional, -, takenUnsigned, takenSigned, takenOptional⟩ :=
    readsShortest_and_spans
  exact ⟨notGreatest, readsUnsigned, readsSigned, readsOptional,
    (ofUnsigned _).1.shortest _ _ _ readsUnsigned, (ofSigned _).1.shortest _ _ _ readsSigned,
    (ofOptional _ notGreatest).1.shortest _ _ _ readsOptional,
    (takenUnsigned _ _ _ _ readsUnsigned).2, (takenSigned _ _ _ _ readsSigned).2,
    (takenOptional _ _ _ _ readsOptional).2⟩

end Leb128

end DexPatch
