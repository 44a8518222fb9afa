import DexPatch.Proofs.Decoded
import DexPatch.Proofs.ShortestNumbers

namespace DexPatch

/-!
# Values in their shortest form

A number inside a value takes the fewest bytes from which it is read, and so
do counts and the numbers of names and types.  A value is read in few ways: as
a list, as an annotation, or from the bytes of a single number.  So nothing
that is read as a value takes fewer bytes than its written form, whatever is
inside the value.
-/

/-! ## What a reader takes -/

namespace Cursor

variable {α : Type} {data : Bytes}

/-- Whatever the cursor gives, it has taken at least so many bytes for it, and none from behind the
end of the data. -/
def Takes (data : Bytes) (cursor : Cursor α) (least : α → Nat) : Prop :=
  ∀ ⦃position stop : Nat⦄ ⦃x : α⦄,
    cursor position = .ok (x, stop) →
      position + least x ≤ stop ∧ stop ≤ max position data.size

/-- A byte is taken in front of the end of the data. -/
theorem lt_size_of_byte
    {position stop : Nat}
    {taken : UInt8}
    (read : byte data position = .ok (taken, stop)) :
    position < data.size ∧ stop = position + 1 := by
  unfold byte u8At at read
  cases found : data[position]? with
  | none =>
      simp [found] at read
  | some byte =>
      simp only [found, Except.ok.injEq, Prod.mk.injEq] at read
      exact ⟨(Array.getElem?_eq_some_iff.mp found).1, read.2.symm⟩

/-- A number of some bytes is taken in front of the end of the data, and fits them. -/
theorem le_size_of_number
    {position stop width n : Nat}
    (read : number data width position = .ok (n, stop)) :
    position + width ≤ data.size ∧ stop = position + width ∧ n < capacity width := by
  unfold number numberAt at read
  cases found : bytesAt data position width with
  | error error =>
      simp [found] at read
  | ok bytes =>
      simp only [found, Except.ok.injEq, Prod.mk.injEq] at read
      obtain ⟨rfl, rfl⟩ := read
      obtain ⟨rfl, held⟩ := holds_of_bytesAt found
      exact ⟨held.le_size, rfl, ofLittleEndian_lt bytes⟩

namespace Takes

theorem unsigned :
    Takes data (Cursor.unsigned data) fun value => (Leb128.unsigned value).length := by
  intro position stop value read
  obtain ⟨-, leading, last, spans, -⟩ := Leb128.spans_of_readUnsigned read
  have inside := spans.held.le_size
  have isStop := spans.stop
  simp only [List.length_append, List.length_singleton] at inside
  exact ⟨Leb128.length_unsigned_le_of_read read, by omega⟩

/-- A named value takes what its name does and what its value does. -/
theorem named
    {reader : Cursor α}
    {least : α → Nat}
    (takes : Takes data reader least) :
    Takes data
      (do
        let name ← Cursor.unsigned data
        return (name, ← reader))
      fun element => (Leb128.unsigned element.1).length + least element.2 := by
  intro position stop element read
  obtain ⟨name, middle, readsName, read⟩ := bind_eq_ok_iff.mp read
  obtain ⟨x, last, readsValue, read⟩ := bind_eq_ok_iff.mp read
  obtain ⟨rfl, rfl⟩ := pure_eq_ok_iff.mp read
  have front := unsigned readsName
  have behind := takes readsValue
  dsimp only at front ⊢
  omega

/-- A repeated reader takes what it does for each value that it gives. -/
theorem timesFrom
    {reader : Cursor α}
    {least : α → Nat}
    (takes : Takes data reader least)
    {remaining position stop : Nat}
    (given : List α)
    {list : List α}
    (read : Cursor.timesFrom reader remaining given position = .ok (given.reverse ++ list, stop)) :
    position + (list.map least).sum ≤ stop ∧ stop ≤ max position data.size := by
  induction remaining generalizing given list position with
  | zero =>
      simp only [Cursor.timesFrom, Except.ok.injEq, Prod.mk.injEq] at read
      obtain ⟨nothing, rfl⟩ := read
      obtain rfl : list = [] := by simpa using nothing
      simp
  | succ remaining inductionHypothesis =>
      rw [Cursor.timesFrom] at read
      cases head : reader position with
      | error error =>
          simp [head] at read
      | ok item =>
          obtain ⟨x, next⟩ := item
          simp only [head] at read
          obtain ⟨rest, shape, -, -⟩ := exists_of_timesFrom read
          obtain rfl : list = x :: rest := by simpa using shape
          have front := takes head
          have behind :
              next + (rest.map least).sum ≤ stop ∧ stop ≤ max next data.size :=
            inductionHypothesis (x :: given) (by simpa using read)
          simp only [List.map_cons, List.sum_cons]
          omega

theorem times
    {reader : Cursor α}
    {least : α → Nat}
    (takes : Takes data reader least)
    (count : Nat) :
    Takes data (Cursor.times count reader) fun list => (list.map least).sum :=
  fun _ _ _ read => timesFrom takes [] read

end Takes

end Cursor

/-! ## How a value is read -/

/-- What a reader that takes a first byte at a position gives, and where it leaves off, given the
reader of the values inside. -/
inductive Value.ReadBy (data : Bytes) (inner : Cursor Value) (position : Nat) :
    Value → Nat → Prop
  | array {count : UInt32} {items : List Value} {first stop : Nat}
      (counted : Cursor.unsigned data (position + 1) = .ok (count, first))
      (read : Cursor.times count.toNat inner first = .ok (items, stop)) :
      ReadBy data inner position (.array items) stop
  | annotated {type count : UInt32} {elements : List (UInt32 × Value)} {first second stop : Nat}
      (typed : Cursor.unsigned data (position + 1) = .ok (type, first))
      (counted : Cursor.unsigned data first = .ok (count, second))
      (read :
        Cursor.times count.toNat
            (do
              let name ← Cursor.unsigned data
              return (name, ← inner))
            second =
          .ok (elements, stop)) :
      ReadBy data inner position (.annotated type elements) stop
  | null : ReadBy data inner position .null (position + 1)
  | boolean (value : Bool) : ReadBy data inner position (.boolean value) (position + 1)
  | number {type width n : Nat} {make : Nat → Value}
      (known : numberValue? type width = some make)
      (positive : 0 < width)
      (fits : n < capacity width)
      (inside : position + 1 + width ≤ data.size) :
      ReadBy data inner position (make n) (position + 1 + width)
  | index {type width n : Nat} {make : UInt32 → Value}
      (known : indexValue? type = some make)
      (positive : 0 < width)
      (short : n < capacity 4)
      (fits : n < capacity width)
      (inside : position + 1 + width ≤ data.size) :
      ReadBy data inner position (make (UInt32.ofNat n)) (position + 1 + width)

theorem valueIndex_eq_ok_iff
    {start n : Nat}
    {index : UInt32} :
    valueIndex start n = .ok index ↔ n < capacity 4 ∧ UInt32.ofNat n = index := by
  unfold valueIndex
  split <;> simp [*]

/-- A value is read behind its first byte in one of these ways. -/
theorem Value.readBy_of_valueFrom
    {data : Bytes}
    {inner : Cursor Value}
    {start type width position stop : Nat}
    {value : Value}
    (positive : 0 < width)
    (read : valueFrom data inner start type width (position + 1) = .ok (value, stop)) :
    Value.ReadBy data inner position value stop := by
  unfold valueFrom at read
  split at read
  · obtain ⟨count, first, counted, read⟩ := Cursor.bind_eq_ok_iff.mp read
    obtain ⟨items, last, readsItems, read⟩ := Cursor.bind_eq_ok_iff.mp read
    obtain ⟨rfl, rfl⟩ := Cursor.pure_eq_ok_iff.mp read
    exact .array counted readsItems
  · split at read
    · obtain ⟨index, first, typed, read⟩ := Cursor.bind_eq_ok_iff.mp read
      obtain ⟨count, second, counted, read⟩ := Cursor.bind_eq_ok_iff.mp read
      obtain ⟨elements, last, readsElements, read⟩ := Cursor.bind_eq_ok_iff.mp read
      obtain ⟨rfl, rfl⟩ := Cursor.pure_eq_ok_iff.mp read
      exact .annotated typed counted readsElements
    · split at read
      · obtain ⟨rfl, rfl⟩ := Cursor.pure_eq_ok_iff.mp read
        exact .null
      · split at read
        · obtain ⟨rfl, rfl⟩ := Cursor.pure_eq_ok_iff.mp read
          exact .boolean _
        · cases known : numberValue? type width with
          | some make =>
              rw [known] at read
              obtain ⟨n, last, readsNumber, read⟩ := Cursor.bind_eq_ok_iff.mp read
              obtain ⟨rfl, rfl⟩ := Cursor.pure_eq_ok_iff.mp read
              obtain ⟨inside, rfl, fits⟩ := Cursor.le_size_of_number readsNumber
              exact .number known positive fits inside
          | none =>
              cases isIndex : indexValue? type with
              | some make =>
                  rw [known, isIndex] at read
                  obtain ⟨n, last, readsNumber, read⟩ := Cursor.bind_eq_ok_iff.mp read
                  obtain ⟨index, after, checked, read⟩ := Cursor.bind_eq_ok_iff.mp read
                  obtain ⟨rfl, rfl⟩ := Cursor.pure_eq_ok_iff.mp read
                  obtain ⟨short, rfl⟩ := Cursor.lift_eq_ok_iff.mp checked
                  obtain ⟨inside, rfl, fits⟩ := Cursor.le_size_of_number readsNumber
                  obtain ⟨small, rfl⟩ := valueIndex_eq_ok_iff.mp short
                  exact .index isIndex positive small fits inside
              | none =>
                  rw [known, isIndex] at read
                  cases read

/-- A value is read in one of these ways, by a reader with one depth less for what is inside. -/
theorem Value.exists_readBy
    {data : Bytes}
    {depth position stop : Nat}
    {value : Value}
    (read : valueWithin data depth position = .ok (value, stop)) :
    ∃ less,
      depth = less + 1 ∧ position < data.size ∧
        Value.ReadBy data (valueWithin data less) position value stop := by
  cases depth with
  | zero =>
      cases read
  | succ less =>
      rw [valueWithin_succ] at read
      obtain ⟨start, same, isStart, read⟩ := Cursor.bind_eq_ok_iff.mp read
      obtain ⟨header, first, readsHeader, read⟩ := Cursor.bind_eq_ok_iff.mp read
      cases isStart
      obtain ⟨inside, rfl⟩ := Cursor.lt_size_of_byte readsHeader
      exact ⟨less, rfl, inside, Value.readBy_of_valueFrom (Nat.succ_pos _) read⟩

/-! ## Numbers inside values -/

/-- A number that satisfies the condition is not in front of the first one that does. -/
theorem find?_le_of_pairwise
    {condition : Nat → Bool}
    {list : List Nat}
    (ascending : list.Pairwise (· < ·))
    {n : Nat}
    (member : n ∈ list)
    (satisfies : condition n) :
    ∃ least, list.find? condition = some least ∧ least ≤ n := by
  induction list with
  | nil =>
      cases member
  | cons first rest inductionHypothesis =>
      obtain ⟨before, restAscending⟩ := List.pairwise_cons.mp ascending
      by_cases here : condition first
      · refine ⟨first, List.find?_cons_of_pos here, ?_⟩
        rcases List.mem_cons.mp member with rfl | later
        · exact Nat.le_refl _
        · exact Nat.le_of_lt (before n later)
      · rw [List.find?_cons_of_neg here]
        rcases List.mem_cons.mp member with rfl | later
        · exact absurd satisfies here
        · exact inductionHypothesis restAscending later

/-- The first of seven widths that satisfies a condition, or else the eighth, is no larger than any
width that does. -/
theorem getD_find?_le
    {condition : Nat → Bool}
    {width : Nat}
    (positive : 0 < width)
    (satisfies : condition width) :
    ([1, 2, 3, 4, 5, 6, 7].find? condition).getD 8 ≤ width := by
  by_cases listed : width ∈ [1, 2, 3, 4, 5, 6, 7]
  · obtain ⟨least, found, before⟩ := find?_le_of_pairwise (by decide) listed satisfies
    simpa [found] using before
  · have narrow : ([1, 2, 3, 4, 5, 6, 7].find? condition).getD 8 ≤ 8 := by
      cases found : [1, 2, 3, 4, 5, 6, 7].find? condition with
      | none =>
          exact Nat.le_refl 8
      | some least =>
          have member := List.mem_of_find?_eq_some found
          simp only [List.mem_cons, List.not_mem_nil, or_false] at member
          simp only [Option.getD_some]
          omega
    simp only [List.mem_cons, List.not_mem_nil, or_false] at listed
    omega

/-- A signed number is written in no more bytes than some that it fits. -/
theorem signedWidth_le
    {width : Nat}
    {i : Int}
    (positive : 0 < width)
    (low : -(capacity width : Int) ≤ 2 * i)
    (high : 2 * i < (capacity width : Int)) :
    signedWidth i ≤ width :=
  getD_find?_le positive (decide_eq_true ⟨low, high⟩)

/-- An unsigned number is written in no more bytes than some that it fits. -/
theorem unsignedWidth_le
    {width n : Nat}
    (positive : 0 < width)
    (fits : n < capacity width) :
    unsignedWidth n ≤ width :=
  getD_find?_le positive (decide_eq_true fits)

theorem capacity_le_capacity {width wider : Nat} (fewer : width ≤ wider) :
    capacity width ≤ capacity wider :=
  Nat.le_of_dvd (capacity_pos wider) (capacity_dvd fewer)

/-- Extending the sign of some bytes gives a number that fits them. -/
theorem signExtended_bounds {width n : Nat} (fits : n < capacity width) :
    -(capacity width : Int) ≤ 2 * signExtended width n ∧
      2 * signExtended width n < (capacity width : Int) := by
  unfold signExtended
  split <;> omega

/-- A signed number that is cut to the bytes of its type is written in no more bytes than it was
read from. -/
theorem signedWidth_bmod_le
    {width n : Nat}
    (own : Nat)
    (positive : 0 < width)
    (fits : n < capacity width) :
    signedWidth ((signExtended width n).bmod (capacity (own + 1))) ≤ width := by
  obtain ⟨low, high⟩ := signExtended_bounds fits
  have even : capacity (own + 1) = 2 * (128 * capacity own) := by
    rw [capacity]
    omega
  have ownPositive := capacity_pos own
  by_cases narrow : width ≤ own + 1
  · have below := capacity_le_capacity narrow
    rw [Int.bmod_eq_of_le (by omega) (by omega)]
    exact signedWidth_le positive low high
  · have cutLow := Int.le_bmod (x := signExtended width n) (m := capacity (own + 1)) (by omega)
    have cutHigh := Int.bmod_lt (x := signExtended width n) (m := capacity (own + 1)) (by omega)
    have ownWidth :
        signedWidth ((signExtended width n).bmod (capacity (own + 1))) ≤ own + 1 :=
      signedWidth_le (Nat.succ_pos own) (by omega) (by omega)
    omega

theorem length_dropLowZeros_le (digits : List UInt8) :
    (dropLowZeros digits).length ≤ digits.length := by
  by_cases empty : digits = []
  · simp [empty, dropLowZeros]
  · exact (ofLittleEndian_dropLowZeros empty).2.1

/-- Low digits that are zero are dropped. -/
theorem length_dropLowZeros_littleEndian
    {zeros total n : Nat}
    (fewer : zeros < total)
    (divides : capacity zeros ∣ n) :
    (dropLowZeros (littleEndian total n)).length ≤ total - zeros := by
  induction zeros generalizing total n with
  | zero =>
      have shorter := length_dropLowZeros_le (littleEndian total n)
      rwa [length_littleEndian] at shorter
  | succ zeros inductionHypothesis =>
      obtain ⟨total, rfl⟩ := Nat.exists_eq_add_one_of_ne_zero (Nat.ne_zero_of_lt fewer)
      obtain ⟨total, rfl⟩ :=
        Nat.exists_eq_add_one_of_ne_zero (Nat.ne_zero_of_lt (Nat.lt_of_succ_lt_succ fewer))
      rw [capacity] at divides
      obtain ⟨high, rfl⟩ := divides
      have low : UInt8.ofNat (256 * capacity zeros * high) = 0 := by
        apply UInt8.toNat_inj.mp
        rw [UInt8.toNat_ofNat', Nat.mul_assoc]
        exact Nat.mul_mod_right 256 _
      have rest : 256 * capacity zeros * high / 256 = capacity zeros * high := by
        rw [Nat.mul_assoc, Nat.mul_div_cancel_left _ (by decide)]
      have short :
          (dropLowZeros (littleEndian (total + 1) (capacity zeros * high))).length ≤
            total + 1 - zeros :=
        inductionHypothesis (Nat.lt_of_succ_lt_succ fewer) (Nat.dvd_mul_right (capacity zeros) high)
      rw [littleEndian, low, rest, littleEndian, dropLowZeros, if_pos rfl]
      rw [littleEndian] at short
      omega

/-- The bits that are read from the high bytes of a number are written in no more bytes. -/
theorem length_dropLowZeros_of_high
    {width own n : Nat}
    (positive : 0 < width) :
    (dropLowZeros (littleEndian own (n * capacity (own - width) % capacity own))).length ≤
      width := by
  by_cases narrow : width < own
  · have divides : capacity (own - width) ∣ n * capacity (own - width) % capacity own :=
      (Nat.dvd_mod_iff (capacity_dvd (Nat.sub_le own width))).mpr (Nat.dvd_mul_left _ n)
    have short := length_dropLowZeros_littleEndian (show own - width < own by omega) divides
    omega
  · have short := length_dropLowZeros_le
      (littleEndian own (n * capacity (own - width) % capacity own))
    rw [length_littleEndian] at short
    omega

/-! ## Values of a single number -/

namespace Value

theorem length_sizedValue (type : Nat) (payload : List UInt8) :
    (sizedValue type payload).length = payload.length + 1 :=
  rfl

/-- What is made of a number that fits some bytes is written in no more. -/
theorem length_bytes_of_numberValue
    {type width n : Nat}
    {make : Nat → Value}
    (known : numberValue? type width = some make)
    (positive : 0 < width)
    (fits : n < capacity width) :
    (make n).bytes.length ≤ width + 1 := by
  have ofUnsigned {own : Nat} : unsignedWidth (n % own) ≤ width :=
    unsignedWidth_le positive (Nat.lt_of_le_of_lt (Nat.mod_le n own) fits)
  have ofSigned (own : Nat) := signedWidth_bmod_le own positive fits
  unfold numberValue? at known
  split at known <;> cases known <;>
    simp only [bytes, signedValue, unsignedValue, length_sizedValue, length_littleEndian]
  · omega
  · rw [Int16.toInt_ofInt]
    exact Nat.succ_le_succ (ofSigned 1)
  · rw [UInt16.toNat_ofNat']
    exact Nat.succ_le_succ ofUnsigned
  · rw [Int32.toInt_ofInt]
    exact Nat.succ_le_succ (ofSigned 3)
  · rw [Int64.toInt_ofInt]
    exact Nat.succ_le_succ (ofSigned 7)
  · rw [UInt32.toNat_ofNat']
    exact Nat.succ_le_succ (length_dropLowZeros_of_high positive)
  · rw [UInt64.toNat_ofNat']
    exact Nat.succ_le_succ (length_dropLowZeros_of_high positive)

/-- What is made of a pool number that fits some bytes is written in no more. -/
theorem length_bytes_of_indexValue
    {type width n : Nat}
    {make : UInt32 → Value}
    (known : indexValue? type = some make)
    (positive : 0 < width)
    (short : n < capacity 4)
    (fits : n < capacity width) :
    (make (UInt32.ofNat n)).bytes.length ≤ width + 1 := by
  have same : (UInt32.ofNat n).toNat = n := by
    rw [UInt32.toNat_ofNat']
    exact Nat.mod_eq_of_lt short
  unfold indexValue? at known
  split at known <;> cases known <;>
    simp only [bytes, unsignedValue, length_sizedValue, length_littleEndian, same] <;>
    exact Nat.succ_le_succ (unsignedWidth_le positive fits)

/-! ## Values -/

/-- Nothing that is read as a value takes fewer bytes than its written form. -/
theorem takes_valueWithin (data : Bytes) (depth : Nat) :
    Cursor.Takes data (valueWithin data depth) fun value => value.bytes.length := by
  induction depth with
  | zero =>
      intro position stop value read
      cases read
  | succ depth inductionHypothesis =>
      intro position stop value read
      obtain ⟨less, isLess, inside, readBy⟩ := exists_readBy read
      obtain rfl := Nat.succ.inj isLess
      cases readBy with
      | @array count items first stop counted readsItems =>
          have front := Cursor.Takes.unsigned counted
          have behind := Cursor.Takes.times inductionHypothesis _ readsItems
          have isCount : UInt32.ofNat items.length = count := by
            rw [(Cursor.exists_of_times readsItems).1, UInt32.ofNat_toNat]
          dsimp only at front behind ⊢
          simp only [bytes, bytesOfItems_eq, isCount, List.length_cons, List.length_append,
            List.length_flatMap]
          omega
      | @annotated index count elements first second stop typed counted readsElements =>
          have front := Cursor.Takes.unsigned typed
          have between := Cursor.Takes.unsigned counted
          have behind := Cursor.Takes.times inductionHypothesis.named _ readsElements
          have isCount : UInt32.ofNat elements.length = count := by
            rw [(Cursor.exists_of_times readsElements).1, UInt32.ofNat_toNat]
          dsimp only at front between behind ⊢
          simp only [bytes, bytesOfElements_eq, isCount, List.length_cons, List.length_append,
            List.length_flatMap]
          omega
      | null =>
          simp only [bytes, List.length_singleton]
          omega
      | boolean value =>
          simp only [bytes, List.length_singleton]
          omega
      | number known positive fits behind =>
          have short := length_bytes_of_numberValue known positive fits
          dsimp only
          omega
      | index known positive small fits behind =>
          have short := length_bytes_of_indexValue known positive small fits
          dsimp only
          omega

theorem takes_readValue (data : Bytes) :
    Cursor.Takes data (readValue data) fun value => value.bytes.length :=
  fun position _ _ read => takes_valueWithin data (data.size - position) read

end Value

end DexPatch
