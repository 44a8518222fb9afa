import DexPatch.Image.Cursor

namespace DexPatch

/-!
# Pieces that data holds

Whatever a writer puts somewhere stays there when more is put around it, and
every reader only looks at the bytes it takes.  `Holds` is what the two have
in common: it says which bytes stand at an offset, and nothing about the rest.
-/

/-- The data holds the piece at the offset. -/
def Holds (data : Bytes) (offset : Nat) (piece : List UInt8) : Prop :=
  slice? data offset piece.length = some piece

namespace Holds

variable {data : Bytes} {offset : Nat} {piece : List UInt8}

/-- A held piece is what the list of all bytes has from its offset on. -/
theorem iff_take :
    Holds data offset piece ↔
      offset + piece.length ≤ data.size ∧
        (data.toList.drop offset).take piece.length = piece := by
  unfold Holds slice?
  split
  · next fits =>
      simp only [Option.some.injEq, fits, true_and]
      rw [Array.toList_extract, List.extract_eq_take_drop]
      simp
  · next short =>
      simp [short]

/-- Data holds a piece exactly if it can be cut in front of it and behind it. -/
theorem iff_exists :
    Holds data offset piece ↔
      ∃ before after,
        data.toList = before ++ piece ++ after ∧ before.length = offset := by
  rw [iff_take]
  constructor
  · rintro ⟨fits, taken⟩
    refine
      ⟨data.toList.take offset,
        (data.toList.drop offset).drop piece.length, ?_, ?_⟩
    · have behind := List.take_append_drop piece.length (data.toList.drop offset)
      rw [taken] at behind
      rw [List.append_assoc, behind, List.take_append_drop]
    · simp
      omega
  · rintro ⟨before, after, shape, rfl⟩
    have size : data.size = data.toList.length := by simp
    rw [size, shape]
    simp

/-- Data holds all of itself. -/
theorem whole (data : Bytes) : Holds data 0 data.toList :=
  iff_exists.mpr ⟨[], [], by simp, rfl⟩

/-- A held piece ends within the data. -/
theorem le_size (held : Holds data offset piece) :
    offset + piece.length ≤ data.size :=
  (iff_take.mp held).1

/-- A held piece is what can be cut out of the data at its place. -/
theorem extract (held : Holds data offset piece) :
    (data.extract offset (offset + piece.length)).toList = piece := by
  have inside := held.le_size
  unfold Holds slice? at held
  rw [if_pos inside] at held
  exact Option.some.inj held

/-- Two pieces one behind the other are held together exactly if each is held. -/
theorem append_iff {first second : List UInt8} :
    Holds data offset (first ++ second) ↔
      Holds data offset first ∧ Holds data (offset + first.length) second := by
  constructor
  · intro held
    obtain ⟨before, after, shape, rfl⟩ := iff_exists.mp held
    constructor
    · exact iff_exists.mpr
        ⟨before, second ++ after, by simpa using shape, rfl⟩
    · exact iff_exists.mpr
        ⟨before ++ first, after, by simpa using shape, by simp⟩
  · rintro ⟨firstHeld, secondHeld⟩
    obtain ⟨before, after, shape, rfl⟩ := iff_exists.mp firstHeld
    obtain ⟨fits, taken⟩ := iff_take.mp secondHeld
    have rest :
        data.toList.drop (before.length + first.length) = after := by
      rw [shape, List.drop_left' (by simp)]
    rw [rest] at taken
    refine iff_exists.mpr ⟨before, after.drop second.length, ?_, rfl⟩
    have behind := List.take_append_drop second.length after
    rw [taken] at behind
    rw [shape]
    simp [behind]

/-- The front of a held piece is held. -/
theorem left {first second : List UInt8} (held : Holds data offset (first ++ second)) :
    Holds data offset first :=
  (append_iff.mp held).1

/-- The rest of a held piece is held behind its front. -/
theorem right {first second : List UInt8} (held : Holds data offset (first ++ second)) :
    Holds data (offset + first.length) second :=
  (append_iff.mp held).2

/-- The first byte of a held piece is the byte at the offset. -/
theorem head {byte : UInt8} {rest : List UInt8} (held : Holds data offset (byte :: rest)) :
    data[offset]? = some byte := by
  obtain ⟨before, after, shape, rfl⟩ := iff_exists.mp held
  rw [← Array.getElem?_toList, shape]
  simp

/-- What follows the first byte of a held piece is held behind it. -/
theorem tail {byte : UInt8} {rest : List UInt8} (held : Holds data offset (byte :: rest)) :
    Holds data (offset + 1) rest :=
  right (show Holds data offset ([byte] ++ rest) from held)

/-- The first byte of a held piece is held by itself. -/
theorem front {byte : UInt8} {rest : List UInt8} (held : Holds data offset (byte :: rest)) :
    Holds data offset [byte] :=
  left (show Holds data offset ([byte] ++ rest) from held)

/-- No bytes are held wherever there could be some, and at the end. -/
theorem nil (inside : offset ≤ data.size) : Holds data offset [] :=
  iff_take.mpr ⟨inside, rfl⟩

/-- A byte and what is held behind it are held together. -/
theorem cons {byte : UInt8} {rest : List UInt8} (first : data[offset]? = some byte)
    (behind : Holds data (offset + 1) rest) : Holds data offset (byte :: rest) := by
  obtain ⟨inside, isByte⟩ := Array.getElem?_eq_some_iff.mp first
  have single : Holds data offset [byte] := by
    refine iff_take.mpr ⟨inside, ?_⟩
    rw [List.drop_eq_getElem_cons (by simpa using inside)]
    simpa using isByte
  exact append_iff.mpr ⟨single, behind⟩

/-- What is held at a shifted offset. -/
theorem congr_offset {other : Nat} (held : Holds data offset piece)
    (same : offset = other) : Holds data other piece :=
  same ▸ held

/-- An element's piece is held behind the pieces of the elements before it. -/
theorem flatMap_getElem {α : Type} {bytes : α → List UInt8} {list : List α}
    (held : Holds data offset (list.flatMap bytes)) {i : Nat} (inside : i < list.length) :
    Holds data (offset + ((list.take i).flatMap bytes).length) (bytes list[i]) := by
  have cut : list = list.take i ++ list[i] :: list.drop (i + 1) := by simp
  have shape :
      list.flatMap bytes =
        (list.take i).flatMap bytes ++
          (bytes list[i] ++ (list.drop (i + 1)).flatMap bytes) := by
    conv => lhs; rw [cut]
    simp only [List.flatMap_append, List.flatMap_cons]
  rw [shape] at held
  exact held.right.left

/-- An element's piece is held at its multiple of the width that all pieces have. -/
theorem flatMap_getElem_of_width {α : Type} {bytes : α → List UInt8} {list : List α}
    (width : Nat) (wide : ∀ x ∈ list, (bytes x).length = width)
    (held : Holds data offset (list.flatMap bytes)) {i : Nat} (inside : i < list.length) :
    Holds data (offset + i * width) (bytes list[i]) := by
  refine (held.flatMap_getElem inside).congr_offset ?_
  have lengths :
      (list.take i).map (fun x => (bytes x).length) = List.replicate i width := by
    refine List.eq_replicate_iff.mpr ⟨by simp; omega, ?_⟩
    intro length member
    obtain ⟨x, taken, rfl⟩ := List.mem_map.mp member
    exact wide x (List.mem_of_mem_take taken)
  rw [List.length_flatMap, lengths, List.sum_replicate_nat]

end Holds

/-- No piece is longer than all of them together. -/
theorem length_le_of_mem_flatMap
    {α : Type}
    (bytes : α → List UInt8)
    {list : List α}
    {x : α}
    (member : x ∈ list) :
    (bytes x).length ≤ (list.flatMap bytes).length := by
  obtain ⟨before, after, rfl⟩ := List.append_of_mem member
  simp only [List.flatMap_append, List.flatMap_cons, List.length_append]
  omega

/-- Pieces of some least length take at least that much for each. -/
theorem length_mul_le_length_flatMap
    {α : Type}
    (bytes : α → List UInt8)
    (list : List α)
    (least : Nat)
    (long : ∀ x ∈ list, least ≤ (bytes x).length) :
    list.length * least ≤ (list.flatMap bytes).length := by
  induction list with
  | nil =>
      simp
  | cons x rest inductionHypothesis =>
      have first := long x (by simp)
      have others := inductionHypothesis fun y member => long y (by simp [member])
      simp only [List.flatMap_cons, List.length_cons, List.length_append, Nat.succ_mul]
      omega

/-- Pieces that are not empty are no more than their bytes. -/
theorem length_le_length_flatMap
    {α : Type}
    (bytes : α → List UInt8)
    (list : List α)
    (positive : ∀ x ∈ list, 0 < (bytes x).length) :
    list.length ≤ (list.flatMap bytes).length := by
  simpa using length_mul_le_length_flatMap bytes list 1 positive

/-! ## Fields of known width -/

@[simp] theorem length_le16 (n : Nat) : (le16 n).length = 2 :=
  length_littleEndian 2 n

@[simp] theorem length_le32 (n : Nat) : (le32 n).length = 4 :=
  length_littleEndian 4 n

section Fields

variable {data : Bytes} {offset : Nat}

theorem bytesAt_of_holds {piece : List UInt8} (held : Holds data offset piece) :
    bytesAt data offset piece.length = .ok piece := by
  unfold Holds at held
  simp [bytesAt, held]

/-- The number at an offset is the one whose digits are held there. -/
theorem numberAt_of_holds_digits {piece : List UInt8} (held : Holds data offset piece) :
    numberAt data offset piece.length = .ok (ofLittleEndian piece) := by
  simp [numberAt, bytesAt_of_holds held]

/-- A number reads back from as many bytes as it was written in, if it fits. -/
theorem numberAt_of_holds {width n : Nat} (fits : n < capacity width)
    (held : Holds data offset (littleEndian width n)) :
    numberAt data offset width = .ok n := by
  have read := numberAt_of_holds_digits held
  rwa [length_littleEndian, ofLittleEndian_littleEndian, Nat.mod_eq_of_lt fits] at read

theorem u8At_of_holds {byte : UInt8} {rest : List UInt8}
    (held : Holds data offset (byte :: rest)) :
    u8At data offset = .ok byte := by
  simp [u8At, held.head]

theorem u16At_of_holds {n : Nat} (fits : n < 65536) (held : Holds data offset (le16 n)) :
    u16At data offset = .ok (UInt16.ofNat n) := by
  have read : numberAt data offset 2 = .ok n := numberAt_of_holds fits held
  simp [u16At, read, bind, Except.bind, pure, Except.pure]

theorem u32At_of_holds {n : Nat} (fits : n < 4294967296) (held : Holds data offset (le32 n)) :
    u32At data offset = .ok (UInt32.ofNat n) := by
  have read : numberAt data offset 4 = .ok n := numberAt_of_holds fits held
  simp [u32At, read, bind, Except.bind, pure, Except.pure]

theorem natAt_of_holds {n : Nat} (fits : n < 4294967296) (held : Holds data offset (le32 n)) :
    natAt data offset = .ok n := by
  simp [natAt, u32At_of_holds fits held, bind, Except.bind, pure, Except.pure,
    Nat.mod_eq_of_lt fits]

theorem u16At_toNat_of_holds {value : UInt16} (held : Holds data offset (le16 value.toNat)) :
    u16At data offset = .ok value := by
  simpa using u16At_of_holds value.toNat_lt held

theorem u32At_toNat_of_holds {value : UInt32} (held : Holds data offset (le32 value.toNat)) :
    u32At data offset = .ok value := by
  simpa using u32At_of_holds value.toNat_lt held

end Fields

end DexPatch
