import DexPatch.Image.ValueReader
import DexPatch.Proofs.Nested
import DexPatch.Proofs.Reading

namespace DexPatch

/-!
# Values read back

Every number inside a value is written in its shortest form, and the reader
extends it again in the way that its type asks for.  Arrays and annotations
nest, and the bytes that a value takes bound the depth that its reader needs.
-/

/-! ## Numbers inside values -/

/-- A signed number fits the bytes that its shortest form takes. -/
theorem signedWidth_spec
    {i : Int}
    (low : -(capacity 8 : Int) ≤ 2 * i)
    (high : 2 * i < (capacity 8 : Int)) :
    (0 < signedWidth i ∧ signedWidth i ≤ 8) ∧
      -(capacity (signedWidth i) : Int) ≤ 2 * i ∧
      2 * i < (capacity (signedWidth i) : Int) := by
  unfold signedWidth
  cases found :
      ([1, 2, 3, 4, 5, 6, 7] : List Nat).find? fun width =>
        decide (-(capacity width : Int) ≤ 2 * i ∧ 2 * i < (capacity width : Int)) with
  | none =>
      exact ⟨by decide, low, high⟩
  | some width =>
      have fits := List.find?_some found
      have member := List.mem_of_find?_eq_some found
      simp only [decide_eq_true_eq] at fits
      refine ⟨?_, fits⟩
      simp only [List.mem_cons, List.not_mem_nil, or_false] at member
      simp only [Option.getD_some]
      omega

/-- An unsigned number fits the bytes that its shortest form takes. -/
theorem unsignedWidth_spec {n : Nat} (fits : n < capacity 8) :
    (0 < unsignedWidth n ∧ unsignedWidth n ≤ 8) ∧ n < capacity (unsignedWidth n) := by
  unfold unsignedWidth
  cases found :
      ([1, 2, 3, 4, 5, 6, 7] : List Nat).find? fun width => decide (n < capacity width) with
  | none =>
      exact ⟨by decide, fits⟩
  | some width =>
      have fitsWidth := List.find?_some found
      have member := List.mem_of_find?_eq_some found
      simp only [decide_eq_true_eq] at fitsWidth
      refine ⟨?_, fitsWidth⟩
      simp only [List.mem_cons, List.not_mem_nil, or_false] at member
      simp only [Option.getD_some]
      omega

/-- Every capacity is positive, and it divides the capacity of any more digits. -/
theorem capacity_pos (width : Nat) : 0 < capacity width := by
  induction width with
  | zero =>
      simp [capacity]
  | succ width inductionHypothesis =>
      simp only [capacity]
      omega

theorem capacity_dvd {width wider : Nat} (fewer : width ≤ wider) :
    capacity width ∣ capacity wider := by
  induction fewer with
  | refl =>
      exact Nat.dvd_refl _
  | step _ inductionHypothesis =>
      exact Nat.dvd_trans inductionHypothesis (Nat.dvd_mul_left _ _)

/-- The lowest bytes of a signed number that fits them are extended to the number again. -/
theorem signExtended_lowest
    {width wider : Nat}
    {i : Int}
    (narrow : width ≤ wider)
    (low : -(capacity width : Int) ≤ 2 * i)
    (high : 2 * i < (capacity width : Int)) :
    signExtended width ((i % (capacity wider : Int)).toNat % capacity width) = i := by
  have positive := capacity_pos width
  have widerPositive := capacity_pos wider
  have divides : (capacity width : Int) ∣ (capacity wider : Int) :=
    Int.ofNat_dvd.mpr (capacity_dvd narrow)
  have nonnegative : 0 ≤ i % (capacity wider : Int) := Int.emod_nonneg _ (by omega)
  have lowest :
      ((((i % (capacity wider : Int)).toNat % capacity width : Nat)) : Int) =
        i % (capacity width : Int) := by
    rw [Int.natCast_emod, Int.toNat_of_nonneg nonnegative, Int.emod_emod_of_dvd i divides]
  have residue :
      i % (capacity width : Int) = if 0 ≤ i then i else i + (capacity width : Int) := by
    split
    · exact Int.emod_eq_of_lt (by omega) (by omega)
    · rw [← Int.add_emod_right, Int.emod_eq_of_lt (by omega) (by omega)]
  rw [residue] at lowest
  unfold signExtended
  split at lowest <;> split <;> omega

/-- A shortest form keeps a byte, and its number stands for the bytes that were dropped. -/
theorem ofLittleEndian_dropLowZeros {digits : List UInt8} (nonempty : digits ≠ []) :
    0 < (dropLowZeros digits).length ∧
      (dropLowZeros digits).length ≤ digits.length ∧
      ofLittleEndian (dropLowZeros digits) *
          capacity (digits.length - (dropLowZeros digits).length) =
        ofLittleEndian digits := by
  fun_induction dropLowZeros digits with
  | case1 =>
      exact absurd rfl nonempty
  | case2 byte =>
      simp [capacity]
  | case3 next rest inductionHypothesis =>
      obtain ⟨positive, shorter, value⟩ := inductionHypothesis (by simp)
      refine ⟨positive, ?_, ?_⟩
      · simp only [List.length_cons] at shorter ⊢
        omega
      · have more :
            (0 :: next :: rest).length - (dropLowZeros (next :: rest)).length =
              (next :: rest).length - (dropLowZeros (next :: rest)).length + 1 := by
          simp only [List.length_cons] at shorter ⊢
          omega
        rw [more, capacity, Nat.mul_left_comm, value]
        simp [ofLittleEndian]
  | case4 byte next rest nonzero =>
      simp [capacity]

/-! ## Values -/

/-- The kinds of value that a number or a pool number makes. -/
theorem type_of_numberValue
    {type width : Nat}
    {make : Nat → Value}
    (known : numberValue? type width = some make) :
    type < 0x1c := by
  unfold numberValue? at known
  split at known <;> first | omega | simp at known

theorem type_of_indexValue
    {type : Nat}
    {make : UInt32 → Value}
    (known : indexValue? type = some make) :
    type < 0x1c ∧ ∀ width, numberValue? type width = none := by
  unfold indexValue? at known
  split at known <;> first | exact ⟨by omega, fun _ => rfl⟩ | simp at known

/-- Reads what follows the first byte of a value, given the reader of the values inside it. -/
def valueFrom (data : Bytes) (inner : Cursor Value) (start type width : Nat) : Cursor Value := do
  if type = 0x1c then
    let count ← Cursor.unsigned data
    return .array (← Cursor.times count.toNat inner)
  else if type = 0x1d then
    let index ← Cursor.unsigned data
    let count ← Cursor.unsigned data
    let elements ← Cursor.times count.toNat do
      let name ← Cursor.unsigned data
      return (name, ← inner)
    return .annotated index elements
  else if type = 0x1e then
    return .null
  else if type = 0x1f then
    return .boolean (width ≠ 1)
  else
    match numberValue? type width, indexValue? type with
    | some value, _ => return value (← Cursor.number data width)
    | none, some value => return value (← valueIndex start (← Cursor.number data width))
    | none, none => throw (.malformed .valueType start)

/-- A reader with some depth left takes a byte and goes on with one depth less. -/
theorem valueWithin_succ (data : Bytes) (depth : Nat) :
    valueWithin data (depth + 1) =
      (do
        let start ← get
        let header ← Cursor.byte data
        valueFrom data (valueWithin data depth) start (header.toNat % 32)
          (header.toNat / 32 + 1)) :=
  rfl

/-- The first byte of a value tells its type and the count of the bytes behind it. -/
theorem valueWithin_of_holds
    {data : Bytes}
    {depth position : Nat}
    (type width : Nat)
    {rest : List UInt8}
    (typeFits : type < 32)
    (widthFits : width < 8)
    (held : Holds data position (UInt8.ofNat (width * 32 + type) :: rest)) :
    valueWithin data (depth + 1) position =
      valueFrom data (valueWithin data depth) position type (width + 1) (position + 1) := by
  have header : (UInt8.ofNat (width * 32 + type)).toNat = width * 32 + type := by
    rw [UInt8.toNat_ofNat']
    omega
  have typeBits : (width * 32 + type) % 32 = type := by omega
  have widthBits : (width * 32 + type) / 32 = width := by omega
  rw [valueWithin_succ,
    Cursor.bind_of_ok (show (get : Cursor Nat) position = .ok (position, position) from rfl),
    Cursor.bind_of_ok (Cursor.Reads.byte _ held.front),
    header, typeBits, widthBits]
  rfl

/-- Behind its first byte a value of a type below those of arrays is a number. -/
theorem valueWithin_of_holds_sized
    {data : Bytes}
    {type depth position : Nat}
    {payload : List UInt8}
    (small : type < 0x1c)
    (nonempty : 0 < payload.length)
    (short : payload.length ≤ 8)
    (held : Holds data position (sizedValue type payload)) :
    valueWithin data (depth + 1) position =
      (match numberValue? type payload.length, indexValue? type with
        | some value, _ => do return value (← Cursor.number data payload.length)
        | none, some value => do
          return value (← valueIndex position (← Cursor.number data payload.length))
        | none, none => throw (.malformed .valueType position) : Cursor Value) (position + 1) := by
  have length : payload.length - 1 + 1 = payload.length := by omega
  have notArray : type ≠ 0x1c := by omega
  have notAnnotated : type ≠ 0x1d := by omega
  have notNull : type ≠ 0x1e := by omega
  have notBoolean : type ≠ 0x1f := by omega
  rw [valueWithin_of_holds type _ (by omega) (by omega) held, length]
  simp only [valueFrom, notArray, notAnnotated, notNull, notBoolean, ↓reduceIte]

namespace Cursor.Reads

/-- A number in its shortest form is read as the value of its type. -/
theorem sizedNumber
    {type depth : Nat}
    (payload : List UInt8)
    {make : Nat → Value}
    (nonempty : 0 < payload.length)
    (short : payload.length ≤ 8)
    (known : numberValue? type payload.length = some make) :
    Reads (fun data => valueWithin data (depth + 1)) (sizedValue type payload)
      (make (ofLittleEndian payload)) := by
  intro data position held
  dsimp only
  rw [valueWithin_of_holds_sized (type_of_numberValue known) nonempty short held]
  simp only [known]
  rw [bind_of_ok (number payload held.tail)]
  simp [sizedValue, pure, StateT.pure, Except.pure, Nat.add_assoc, Nat.add_comm 1]

/-- A pool number in its shortest form is read as the value of its type. -/
theorem sizedIndex
    {type depth : Nat}
    (payload : List UInt8)
    {make : UInt32 → Value}
    (nonempty : 0 < payload.length)
    (short : payload.length ≤ 8)
    (fits : ofLittleEndian payload < capacity 4)
    (known : indexValue? type = some make) :
    Reads (fun data => valueWithin data (depth + 1)) (sizedValue type payload)
      (make (UInt32.ofNat (ofLittleEndian payload))) := by
  intro data position held
  obtain ⟨small, noNumber⟩ := type_of_indexValue known
  have index :
      valueIndex position (ofLittleEndian payload) =
        .ok (UInt32.ofNat (ofLittleEndian payload)) := by
    simp [valueIndex, fits]
  dsimp only
  rw [valueWithin_of_holds_sized small nonempty short held]
  simp only [known, noNumber]
  rw [bind_of_ok (number payload held.tail), bind_of_ok (lift_eq_ok_iff.mpr ⟨index, rfl⟩)]
  simp [sizedValue, pure, StateT.pure, Except.pure, Nat.add_assoc, Nat.add_comm 1]

/-- A signed number is read as the value of its type. -/
theorem signedNumber
    {type depth : Nat}
    {i : Int}
    (make : Int → Value)
    (low : -(capacity 8 : Int) ≤ 2 * i)
    (high : 2 * i < (capacity 8 : Int))
    (known : ∀ width, numberValue? type width = some fun n => make (signExtended width n)) :
    Reads (fun data => valueWithin data (depth + 1)) (signedValue type i) (make i) := by
  obtain ⟨⟨positive, narrow⟩, fitsLow, fitsHigh⟩ := signedWidth_spec low high
  have reads :
      Reads (fun data => valueWithin data (depth + 1)) (signedValue type i) _ :=
    sizedNumber (littleEndian (signedWidth i) (i % (capacity 8 : Int)).toNat)
      (by simpa using positive) (by simpa using narrow) (known _)
  rwa [length_littleEndian, ofLittleEndian_littleEndian,
    signExtended_lowest narrow fitsLow fitsHigh] at reads

/-- An unsigned number is read as the value of its type. -/
theorem unsignedNumber
    {type depth n : Nat}
    (make : Nat → Value)
    (fits : n < capacity 8)
    (known : ∀ width, numberValue? type width = some make) :
    Reads (fun data => valueWithin data (depth + 1)) (unsignedValue type n) (make n) := by
  obtain ⟨⟨positive, narrow⟩, fitsWidth⟩ := unsignedWidth_spec fits
  have reads : Reads (fun data => valueWithin data (depth + 1)) (unsignedValue type n) _ :=
    sizedNumber (littleEndian (unsignedWidth n) n)
      (by simpa using positive) (by simpa using narrow) (known _)
  rwa [ofLittleEndian_littleEndian, Nat.mod_eq_of_lt fitsWidth] at reads

/-- A pool number is read as the value of its type. -/
theorem poolNumber
    {type depth : Nat}
    {make : UInt32 → Value}
    (known : indexValue? type = some make)
    (index : UInt32) :
    Reads (fun data => valueWithin data (depth + 1)) (unsignedValue type index.toNat)
      (make index) := by
  have small := index.toNat_lt
  have fits : index.toNat < capacity 8 := Nat.lt_trans small (by decide)
  obtain ⟨⟨positive, narrow⟩, fitsWidth⟩ := unsignedWidth_spec fits
  have value :
      ofLittleEndian (littleEndian (unsignedWidth index.toNat) index.toNat) = index.toNat := by
    rw [ofLittleEndian_littleEndian, Nat.mod_eq_of_lt fitsWidth]
  have reads :
      Reads (fun data => valueWithin data (depth + 1)) (unsignedValue type index.toNat) _ :=
    sizedIndex (littleEndian (unsignedWidth index.toNat) index.toNat)
      (by simpa using positive) (by simpa using narrow) (by rw [value]; exact small) known
  rwa [value, UInt32.ofNat_toNat] at reads

/-- The bits of a floating-point number are read from the digits that its shortest form keeps. -/
theorem floating
    {type width n depth : Nat}
    (make : Nat → Value)
    (positive : 0 < width)
    (narrow : width ≤ 8)
    (fits : n < capacity width)
    (known : ∀ kept, numberValue? type kept = some fun m => make (m * capacity (width - kept))) :
    Reads (fun data => valueWithin data (depth + 1))
      (sizedValue type (dropLowZeros (littleEndian width n))) (make n) := by
  have nonempty : littleEndian width n ≠ [] := by
    intro empty
    have := congrArg List.length empty
    simp only [length_littleEndian, List.length_nil] at this
    omega
  obtain ⟨kept, shorter, value⟩ := ofLittleEndian_dropLowZeros nonempty
  rw [length_littleEndian] at shorter value
  rw [ofLittleEndian_littleEndian, Nat.mod_eq_of_lt fits] at value
  have reads :
      Reads (fun data => valueWithin data (depth + 1))
        (sizedValue type (dropLowZeros (littleEndian width n))) _ :=
    sizedNumber _ kept (by omega) (known _)
  rwa [value] at reads

end Cursor.Reads

/-! ## Nested values -/

/-- Named values are read one by one if their values are. -/
theorem Cursor.Reads.elements
    {reader : Bytes → Cursor Value}
    {elements : List (UInt32 × Value)}
    (each : ∀ part ∈ elements.map (·.2), Reads reader part.bytes part)
    (element : UInt32 × Value)
    (member : element ∈ elements) :
    Reads
      (fun data => Cursor.unsigned data >>= fun name =>
        reader data >>= fun value => pure (name, value))
      (Leb128.unsigned element.1 ++ element.2.bytes) element :=
  Cursor.Reads.andThen
    (Cursor.Reads.unsigned element.1)
    ((each element.2 (List.mem_map_of_mem member)).map (Prod.mk element.1))

/-- A type and named values are read if the values are. -/
theorem Cursor.Reads.typed
    {α : Type}
    (make : UInt32 → List (UInt32 × Value) → α)
    {reader : Bytes → Cursor Value}
    (index : UInt32)
    {elements : List (UInt32 × Value)}
    (each : ∀ part ∈ elements.map (·.2), Reads reader part.bytes part)
    (fits : elements.length < 4294967296) :
    Reads
      (fun data => do
        let index ← Cursor.unsigned data
        let count ← Cursor.unsigned data
        let elements ← Cursor.times count.toNat do
          let name ← Cursor.unsigned data
          return (name, ← reader data)
        return make index elements)
      (Leb128.unsigned index ++ Leb128.unsigned (UInt32.ofNat elements.length) ++
        Value.bytesOfElements elements)
      (make index elements) := by
  rw [Value.bytesOfElements_eq, List.append_assoc]
  refine Cursor.Reads.andThen (Cursor.Reads.unsigned index) ?_
  have reads :=
    Cursor.Reads.countedThen (fun elements _ => pure (make index elements))
      (Cursor.Reads.elements each) fits (Cursor.Reads.done (make index elements))
  rwa [List.append_nil] at reads

namespace Value

/-- Every value takes a byte. -/
theorem length_bytes_pos (value : Value) : 0 < value.bytes.length := by
  cases value <;> simp [bytes, sizedValue, signedValue, unsignedValue]

/-- Every named value takes a byte. -/
theorem length_elementBytes_pos (element : UInt32 × Value) :
    0 < (Leb128.unsigned element.1 ++ element.2.bytes).length := by
  have := element.2.length_bytes_pos
  simp only [List.length_append]
  omega

/-- No value inside another one takes more bytes than are left of it behind the first. -/
theorem length_lt_of_mem_inner
    {value part : Value}
    (member : part ∈ value.inner) :
    part.bytes.length < value.bytes.length := by
  cases value with
  | array items =>
      have smaller :=
        length_le_of_mem_flatMap Value.bytes (show part ∈ items from member)
      simp only [bytes, bytesOfItems_eq, List.length_cons, List.length_append]
      omega
  | annotated index elements =>
      obtain ⟨element, isElement, rfl⟩ := List.mem_map.mp member
      have smaller :=
        length_le_of_mem_flatMap
          (fun element : UInt32 × Value => Leb128.unsigned element.1 ++ element.2.bytes)
          isElement
      simp only [List.length_append] at smaller
      simp only [bytes, bytesOfElements_eq, List.length_cons, List.length_append]
      omega
  | _ =>
      simp [inner] at member

/-- Neither the value nor one inside it has more values directly inside it than a count tells. -/
inductive Countable : Value → Prop
  | intro {value : Value}
      (few : value.inner.length < 4294967296)
      (inside : ∀ part ∈ value.inner, part.Countable) :
      value.Countable

/-- There are no more values directly inside a value than it takes bytes. -/
theorem length_inner_le (value : Value) : value.inner.length ≤ value.bytes.length := by
  cases value with
  | array items =>
      have few := length_le_length_flatMap bytes items fun item _ => item.length_bytes_pos
      simp only [inner, bytes, bytesOfItems_eq, List.length_cons, List.length_append]
      omega
  | annotated index elements =>
      have few :=
        length_le_length_flatMap _ elements fun element _ => length_elementBytes_pos element
      simp only [inner, bytes, bytesOfElements_eq, List.length_cons, List.length_append,
        List.length_map]
      omega
  | _ =>
      simp [inner]

/-- A value of few bytes has few values in it. -/
theorem countable_of_length
    (value : Value)
    (fits : value.bytes.length < 4294967296) :
    value.Countable := by
  induction value using nestedInduction with
  | step value inductionHypothesis =>
      have few := value.length_inner_le
      refine .intro (by omega) fun part member => inductionHypothesis part member ?_
      have shorter := length_lt_of_mem_inner member
      omega

/-- The one byte of a small number. -/
theorem reads_byte (value : Int8) (depth : Nat) :
    Cursor.Reads (fun data => valueWithin data (depth + 1)) (byte value).bytes (byte value) := by
  have low := value.le_toInt
  have high := value.toInt_lt
  have extended :
      signExtended 1 ((value.toInt % 256).toNat % capacity 1) = value.toInt :=
    signExtended_lowest (Nat.le_refl 1)
      (show -(capacity 1 : Int) ≤ 2 * value.toInt by simp only [capacity]; omega)
      (by simp only [capacity]; omega)
  have reads :
      Cursor.Reads (fun data => valueWithin data (depth + 1)) (byte value).bytes _ :=
    Cursor.Reads.sizedNumber (littleEndian 1 (value.toInt % 256).toNat) (by simp)
      (by simp) rfl
  rwa [length_littleEndian, ofLittleEndian_littleEndian, extended, Int8.ofInt_toInt] at reads

/-- An array is read one level deeper than its items. -/
theorem reads_array
    {items : List Value}
    {depth : Nat}
    (each : ∀ item ∈ items, Cursor.Reads (fun data => valueWithin data depth) item.bytes item)
    (few : items.length < 4294967296) :
    Cursor.Reads (fun data => valueWithin data (depth + 1)) (array items).bytes
      (array items) := by
  have reads :=
    Cursor.Reads.countedThen (fun items _ => pure (array items)) each few
      (Cursor.Reads.done (array items))
  rw [List.append_nil, ← bytesOfItems_eq] at reads
  intro data position held
  rw [bytes] at held ⊢
  refine (valueWithin_of_holds 0x1c 0 (by omega) (by omega) held).trans
    ((reads held.tail).trans ?_)
  simp [Nat.add_assoc, Nat.add_comm 1]

/-- An annotation is read one level deeper than the values of its elements. -/
theorem reads_annotated
    (index : UInt32)
    {elements : List (UInt32 × Value)}
    {depth : Nat}
    (each :
      ∀ part ∈ elements.map (·.2),
        Cursor.Reads (fun data => valueWithin data depth) part.bytes part)
    (few : elements.length < 4294967296) :
    Cursor.Reads (fun data => valueWithin data (depth + 1)) (annotated index elements).bytes
      (annotated index elements) := by
  have reads := Cursor.Reads.typed annotated index each few
  intro data position held
  rw [bytes] at held ⊢
  refine (valueWithin_of_holds 0x1d 0 (by omega) (by omega) held).trans
    ((reads held.tail).trans ?_)
  simp [Nat.add_assoc, Nat.add_comm 1]

/-- A value is read wherever its bytes are held, if its reader has as much depth as they are long. -/
theorem readsWithin
    {value : Value}
    (countable : value.Countable)
    {depth : Nat}
    (deep : value.bytes.length ≤ depth) :
    Cursor.Reads (fun data => valueWithin data depth) value.bytes value := by
  induction value using nestedInduction generalizing depth with
  | step value inductionHypothesis =>
      obtain ⟨few, countableInside⟩ := countable
      obtain ⟨depth, rfl⟩ : ∃ less, depth = less + 1 := by
        cases depth with
        | zero =>
            have := value.length_bytes_pos
            omega
        | succ less =>
            exact ⟨less, rfl⟩
      have inside :
          ∀ part ∈ value.inner,
            Cursor.Reads (fun data => valueWithin data depth) part.bytes part := by
        intro part member
        have shorter := length_lt_of_mem_inner member
        exact inductionHypothesis part member (countableInside part member) (by omega)
      cases value with
      | byte value =>
          exact reads_byte value depth
      | short value =>
          have low := value.le_toInt
          have high := value.toInt_lt
          have reads :
              Cursor.Reads (fun data => valueWithin data (depth + 1)) (short value).bytes _ :=
            Cursor.Reads.signedNumber (fun i => .short (Int16.ofInt i))
              (by simp only [capacity]; omega) (by simp only [capacity]; omega) (fun _ => rfl)
          rwa [Int16.ofInt_toInt] at reads
      | int value =>
          have low := value.le_toInt
          have high := value.toInt_lt
          have reads :
              Cursor.Reads (fun data => valueWithin data (depth + 1)) (int value).bytes _ :=
            Cursor.Reads.signedNumber (fun i => .int (Int32.ofInt i))
              (by simp only [capacity]; omega) (by simp only [capacity]; omega) (fun _ => rfl)
          rwa [Int32.ofInt_toInt] at reads
      | long value =>
          have low := value.le_toInt
          have high := value.toInt_lt
          have reads :
              Cursor.Reads (fun data => valueWithin data (depth + 1)) (long value).bytes _ :=
            Cursor.Reads.signedNumber (fun i => .long (Int64.ofInt i))
              (by simp only [capacity]; omega) (by simp only [capacity]; omega) (fun _ => rfl)
          rwa [Int64.ofInt_toInt] at reads
      | char value =>
          have reads :
              Cursor.Reads (fun data => valueWithin data (depth + 1)) (char value).bytes _ :=
            Cursor.Reads.unsignedNumber (fun n => .char (UInt16.ofNat n))
              (Nat.lt_trans value.toNat_lt (by decide)) (fun _ => rfl)
          rwa [UInt16.ofNat_toNat] at reads
      | float bits =>
          have reads :
              Cursor.Reads (fun data => valueWithin data (depth + 1)) (float bits).bytes _ :=
            Cursor.Reads.floating (fun n => .float (UInt32.ofNat n))
              (by decide) (by decide) bits.toNat_lt (fun _ => rfl)
          rwa [UInt32.ofNat_toNat] at reads
      | double bits =>
          have reads :
              Cursor.Reads (fun data => valueWithin data (depth + 1)) (double bits).bytes _ :=
            Cursor.Reads.floating (fun n => .double (UInt64.ofNat n))
              (by decide) (by decide) bits.toNat_lt (fun _ => rfl)
          rwa [UInt64.ofNat_toNat] at reads
      | methodType index =>
          exact Cursor.Reads.poolNumber rfl index
      | methodHandle index =>
          exact Cursor.Reads.poolNumber rfl index
      | string index =>
          exact Cursor.Reads.poolNumber rfl index
      | type index =>
          exact Cursor.Reads.poolNumber rfl index
      | field index =>
          exact Cursor.Reads.poolNumber rfl index
      | method index =>
          exact Cursor.Reads.poolNumber rfl index
      | enum index =>
          exact Cursor.Reads.poolNumber rfl index
      | array items =>
          exact reads_array inside few
      | annotated index elements =>
          exact reads_annotated index inside (by simpa [inner] using few)
      | null =>
          intro data position held
          exact valueWithin_of_holds 0x1e 0 (by omega) (by omega) held
      | boolean value =>
          intro data position held
          cases value with
          | false =>
              exact valueWithin_of_holds 0x1f 0 (by omega) (by omega) held
          | true =>
              exact valueWithin_of_holds 0x1f 1 (by omega) (by omega) held

/-- A value is read wherever its bytes are held, if its counts fit their fields. -/
theorem reads_of_countable
    {value : Value}
    (countable : value.Countable) :
    Cursor.Reads readValue value.bytes value := by
  intro data position held
  have inside := held.le_size
  exact readsWithin countable (by omega) held

/-- A value is read wherever its bytes are held. -/
theorem reads (value : Value) (fits : value.bytes.length < 4294967296) :
    Cursor.Reads readValue value.bytes value :=
  reads_of_countable (countable_of_length value fits)

/-- A list of values is read behind its count. -/
theorem readsArray (items : List Value) (fits : (arrayBytes items).length < 4294967296) :
    Cursor.Reads readValues (arrayBytes items) items := by
  have few := length_le_length_flatMap bytes items fun item _ => item.length_bytes_pos
  simp only [arrayBytes, bytesOfItems_eq, List.length_append] at fits
  rw [arrayBytes, bytesOfItems_eq]
  refine Cursor.Reads.counted (fun item member => ?_) (by omega)
  have short := length_le_of_mem_flatMap Value.bytes member
  exact item.reads (by omega)

/-- Every list of values takes a byte for its count. -/
theorem length_arrayBytes_pos (items : List Value) : 0 < (arrayBytes items).length := by
  have := Leb128.length_unsigned_pos (UInt32.ofNat items.length)
  simp only [arrayBytes, List.length_append]
  omega

end Value

/-- The type and the named values of an annotation are read behind its first byte. -/
theorem AnnotationItem.reads
    (item : AnnotationItem)
    (fits : item.bytes.length < 4294967296) :
    Cursor.Reads readAnnotated item.bytes.tail (item.type, item.elements) := by
  have few :=
    length_le_length_flatMap _ item.elements fun element _ =>
      Value.length_elementBytes_pos element
  simp only [bytes, Value.bytesOfElements_eq, List.length_cons, List.length_append] at fits
  refine Cursor.Reads.typed Prod.mk item.type (fun part member => ?_) (by omega)
  obtain ⟨element, isElement, rfl⟩ := List.mem_map.mp member
  have short :=
    length_le_of_mem_flatMap
      (fun element : UInt32 × Value => Leb128.unsigned element.1 ++ element.2.bytes)
      isElement
  simp only [List.length_append] at short
  exact element.2.reads (by omega)

end DexPatch
