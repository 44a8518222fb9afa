import DexPatch.Instruction.Operands
import DexPatch.Renumber.Representable

namespace DexPatch

/-!
# Code with renumbered operands

An instruction's width is told by its own units, and renumbering its operands
does not touch those that tell it.  So renumbered code is cut at the same
boundaries, and the operands found there are the renumbered ones.
-/

/-! ## Widths -/

/-- What follows a complete instruction has no part in its width. -/
theorem declaredWidth?_append
    {instruction : List UInt16}
    {tail : List UInt16}
    (declared : declaredWidth? (instruction ++ tail) = some instruction.length)
    (other : List UInt16) :
    declaredWidth? (instruction ++ other) = some instruction.length := by
  cases instruction with
  | nil =>
      exact absurd (declaredWidth?_pos declared) (Nat.lt_irrefl 0)
  | cons first rest =>
      simp only [List.cons_append, declaredWidth?] at declared ⊢
      split at declared
      · next isTable =>
          rw [if_pos isTable]
          cases rest with
          | nil =>
              obtain ⟨size, -, length⟩ := Option.map_eq_some_iff.mp declared
              simp at length
          | cons second rest =>
              exact declared
      · next notTable =>
          rw [if_neg notTable]
          split at declared
          · next isTable =>
              rw [if_pos isTable]
              cases rest with
              | nil =>
                  obtain ⟨size, -, length⟩ := Option.map_eq_some_iff.mp declared
                  simp at length
              | cons second rest =>
                  exact declared
          · next notTableEither =>
              rw [if_neg notTableEither]
              split at declared
              · next isArray =>
                  rw [if_pos isArray]
                  match rest, declared with
                  | elementWidth :: low :: high :: rest, declared =>
                      exact declared
                  | [], declared =>
                      split at declared
                      · simp only [Option.some.injEq, List.length_cons, List.length_nil] at declared
                        omega
                      · simp at declared
                  | [_], declared =>
                      split at declared
                      · simp only [Option.some.injEq, List.length_cons, List.length_nil] at declared
                        omega
                      · simp at declared
                  | [_, _], declared =>
                      split at declared
                      · simp only [Option.some.injEq, List.length_cons, List.length_nil] at declared
                        omega
                      · simp at declared
              · next notArray =>
                  rw [if_neg notArray]
                  exact declared

/-! ## Instructions with renumbered operands -/

section Renumbered

variable (renumber : RefMap)

/-- Renumbering keeps an instruction's first unit and its length. -/
theorem mapPoolOperands_cons
    (first : UInt16)
    (rest : List UInt16) :
    ∃ others,
      mapPoolOperands renumber (first :: rest) = first :: others ∧
        others.length = rest.length := by
  cases rest with
  | nil =>
      exact ⟨[], rfl, rfl⟩
  | cons second rest =>
      simp only [mapPoolOperands]
      split
      · exact ⟨_, rfl, rfl⟩
      · split
        · split
          · exact ⟨_, rfl, by simp⟩
          · exact ⟨_, rfl, rfl⟩
        · split
          · exact ⟨_, rfl, by simp⟩
          · exact ⟨_, rfl, by simp⟩

@[simp] theorem length_mapPoolOperands (instruction : List UInt16) :
    (mapPoolOperands renumber instruction).length = instruction.length := by
  cases instruction with
  | nil =>
      rfl
  | cons first rest =>
      obtain ⟨others, shape, length⟩ := mapPoolOperands_cons renumber first rest
      simp [shape, length]

/-- A payload refers to nothing. -/
theorem mapPoolOperands_of_payload
    {first : UInt16}
    (payload : startsPayload first)
    (rest : List UInt16) :
    mapPoolOperands renumber (first :: rest) = first :: rest := by
  cases rest with
  | nil =>
      rfl
  | cons second rest =>
      simp [mapPoolOperands, operandKind, payload, IndexKind.pool?]

/-- Outside of payloads the opcode alone tells the width. -/
theorem declaredWidth?_of_not_payload
    {first : UInt16}
    (noPayload : ¬ startsPayload first)
    (rest : List UInt16) :
    declaredWidth? (first :: rest) = some (Opcode.format (opcodeOf first)).width := by
  have notTable : first ≠ 0x0100 := by
    rintro rfl
    exact noPayload (by decide)
  have notTableEither : first ≠ 0x0200 := by
    rintro rfl
    exact noPayload (by decide)
  have notArray : first ≠ 0x0300 := by
    rintro rfl
    exact noPayload (by decide)
  simp only [declaredWidth?, if_neg notTable, if_neg notTableEither, if_neg notArray]

/-- Renumbering an instruction keeps its width, whatever follows. -/
theorem declaredWidth?_mapPoolOperands
    {instruction : List UInt16}
    {tail : List UInt16}
    (declared : declaredWidth? (instruction ++ tail) = some instruction.length)
    (other : List UInt16) :
    declaredWidth? (mapPoolOperands renumber instruction ++ other) =
      some (mapPoolOperands renumber instruction).length := by
  rw [length_mapPoolOperands]
  cases instruction with
  | nil =>
      exact absurd (declaredWidth?_pos declared) (Nat.lt_irrefl 0)
  | cons first rest =>
      by_cases payload : startsPayload first
      · rw [mapPoolOperands_of_payload renumber payload]
        exact declaredWidth?_append declared other
      · obtain ⟨others, shape, -⟩ := mapPoolOperands_cons renumber first rest
        rw [shape, List.cons_append, declaredWidth?_of_not_payload payload]
        rwa [List.cons_append, declaredWidth?_of_not_payload payload] at declared

/-! ### Where the operands stand -/

section Shape

variable {first second third fourth : UInt16} {rest : List UInt16} {pool : Pool}

theorem poolOperands_of_jumbo
    (kind : (operandKind first).pool? = some pool)
    (jumbo : opcodeOf first = Opcode.constStringJumbo) :
    poolOperands (first :: second :: third :: rest) =
      [{ pool, index := wideIndex second third, short := false }] := by
  simp [poolOperands, kind, jumbo]

theorem mapPoolOperands_of_jumbo
    (kind : (operandKind first).pool? = some pool)
    (jumbo : opcodeOf first = Opcode.constStringJumbo) :
    mapPoolOperands renumber (first :: second :: third :: rest) =
      first :: UInt16.ofNat (renumber pool (wideIndex second third)).toNat ::
        UInt16.ofNat ((renumber pool (wideIndex second third)).toNat / 65536) :: rest := by
  simp [mapPoolOperands, kind, jumbo]

theorem poolOperands_of_both
    (kind : operandKind first = .methodAndProto)
    (narrow : opcodeOf first ≠ Opcode.constStringJumbo) :
    poolOperands (first :: second :: third :: fourth :: rest) =
      [.brief .method second.toUInt32, .brief .proto fourth.toUInt32] := by
  simp [poolOperands, kind, IndexKind.pool?, narrow, Reference.brief]

theorem mapPoolOperands_of_both
    (kind : operandKind first = .methodAndProto)
    (narrow : opcodeOf first ≠ Opcode.constStringJumbo) :
    mapPoolOperands renumber (first :: second :: third :: fourth :: rest) =
      first :: (renumber .method second.toUInt32).toUInt16 :: third ::
        (renumber .proto fourth.toUInt32).toUInt16 :: rest := by
  simp [mapPoolOperands, kind, IndexKind.pool?, narrow]

/-- Has the instruction at the head no room for a second operand, or no use for it? -/
def HasOneOperand (first : UInt16) (rest : List UInt16) : Prop :=
  operandKind first = .methodAndProto → rest.length < 2

theorem poolOperands_of_one
    (kind : (operandKind first).pool? = some pool)
    (narrow : opcodeOf first ≠ Opcode.constStringJumbo)
    (one : HasOneOperand first rest) :
    poolOperands (first :: second :: rest) = [.brief pool second.toUInt32] := by
  simp only [poolOperands, kind, narrow, if_false]
  split
  · next third fourth tail both =>
      exact absurd (one both) (by simp)
  · rfl

theorem mapPoolOperands_of_one
    (kind : (operandKind first).pool? = some pool)
    (narrow : opcodeOf first ≠ Opcode.constStringJumbo)
    (one : HasOneOperand first rest) :
    mapPoolOperands renumber (first :: second :: rest) =
      first :: (renumber pool second.toUInt32).toUInt16 :: rest := by
  simp only [mapPoolOperands, kind, narrow, if_false]
  split
  · next third fourth tail both =>
      exact absurd (one both) (by simp)
  · rfl

end Shape

/-- Every instruction is of one of four shapes: without operands, or with a wide one, with two
narrow ones or with a single narrow one. -/
inductive OperandShape : List UInt16 → Prop
  | none {instruction : List UInt16}
      (empty : poolOperands instruction = [])
      (kept : ∀ renumber, mapPoolOperands renumber instruction = instruction) :
      OperandShape instruction
  | jumbo {first second third : UInt16} {rest : List UInt16} {pool : Pool}
      (kind : (operandKind first).pool? = some pool)
      (jumbo : opcodeOf first = Opcode.constStringJumbo) :
      OperandShape (first :: second :: third :: rest)
  | both {first second third fourth : UInt16} {rest : List UInt16}
      (kind : operandKind first = .methodAndProto)
      (narrow : opcodeOf first ≠ Opcode.constStringJumbo) :
      OperandShape (first :: second :: third :: fourth :: rest)
  | one {first second : UInt16} {rest : List UInt16} {pool : Pool}
      (kind : (operandKind first).pool? = some pool)
      (narrow : opcodeOf first ≠ Opcode.constStringJumbo)
      (one : HasOneOperand first rest) :
      OperandShape (first :: second :: rest)

theorem operandShape (instruction : List UInt16) : OperandShape instruction := by
  match instruction with
  | [] => exact .none rfl fun _ => rfl
  | [_] => exact .none rfl fun _ => rfl
  | first :: second :: rest =>
      cases kind : (operandKind first).pool? with
      | none =>
          exact .none (by simp [poolOperands, kind]) fun renumber => by
            simp [mapPoolOperands, kind]
      | some pool =>
          by_cases jumbo : opcodeOf first = Opcode.constStringJumbo
          · cases rest with
            | nil =>
                exact .none (by simp [poolOperands, kind, jumbo]) fun renumber => by
                  simp [mapPoolOperands, kind, jumbo]
            | cons third rest =>
                exact .jumbo kind jumbo
          · by_cases both : operandKind first = .methodAndProto
            · match rest with
              | third :: fourth :: rest => exact .both both jumbo
              | [] => exact .one kind jumbo fun _ => by simp
              | [_] => exact .one kind jumbo fun _ => by simp
            · exact .one kind jumbo fun isBoth => absurd isBoth both

/-- A number that fits 16 bits survives being stored in them. -/
theorem toUInt32_toUInt16
    {index : UInt32}
    (small : index.toNat < 65536) :
    index.toUInt16.toUInt32 = index := by
  apply UInt32.toNat_inj.mp
  simpa using Nat.mod_eq_of_lt small

/-- A number survives being stored in two units. -/
theorem wideIndex_halves (index : UInt32) :
    wideIndex (UInt16.ofNat index.toNat) (UInt16.ofNat (index.toNat / 65536)) = index := by
  apply UInt32.toNat_inj.mp
  have bound := index.toNat_lt
  simp [wideIndex]
  omega

/-- Renumbered operands are the old ones with their new numbers, if these fit. -/
theorem poolOperands_mapPoolOperands
    {instruction : List UInt16}
    (fits :
      ∀ ref ∈ poolOperands instruction,
        ref.short → (renumber ref.pool ref.index).toNat < 65536) :
    poolOperands (mapPoolOperands renumber instruction) =
      (poolOperands instruction).map (Reference.renumber renumber) := by
  cases operandShape instruction with
  | none empty kept =>
      rw [kept, empty]
      rfl
  | jumbo kind jumbo =>
      rw [mapPoolOperands_of_jumbo renumber kind jumbo, poolOperands_of_jumbo kind jumbo,
        poolOperands_of_jumbo kind jumbo, wideIndex_halves]
      rfl
  | @both first second third fourth rest kind narrow =>
      rw [poolOperands_of_both kind narrow] at fits ⊢
      have method : (renumber .method second.toUInt32).toNat < 65536 :=
        fits (.brief .method second.toUInt32) (by simp) rfl
      have proto : (renumber .proto fourth.toUInt32).toNat < 65536 :=
        fits (.brief .proto fourth.toUInt32) (by simp) rfl
      rw [mapPoolOperands_of_both renumber kind narrow, poolOperands_of_both kind narrow,
        toUInt32_toUInt16 method, toUInt32_toUInt16 proto]
      rfl
  | @one first second rest pool kind narrow one =>
      rw [poolOperands_of_one kind narrow one] at fits ⊢
      have operand : (renumber pool second.toUInt32).toNat < 65536 :=
        fits (.brief pool second.toUInt32) (by simp) rfl
      rw [mapPoolOperands_of_one renumber kind narrow one, poolOperands_of_one kind narrow one,
        toUInt32_toUInt16 operand]
      rfl

/-- Operands that keep their numbers leave an instruction as it is. -/
theorem mapPoolOperands_id (instruction : List UInt16) :
    mapPoolOperands (fun _ index => index) instruction = instruction := by
  cases operandShape instruction with
  | none _ kept =>
      exact kept _
  | @jumbo first second third rest pool kind jumbo =>
      have low := second.toNat_lt
      have high := third.toNat_lt
      have value : (wideIndex second third).toNat = second.toNat + third.toNat * 65536 := by
        simp [wideIndex]
        omega
      have lowHalf : UInt16.ofNat (second.toNat + third.toNat * 65536) = second := by
        apply UInt16.toNat_inj.mp
        simp
      have highHalf :
          UInt16.ofNat ((second.toNat + third.toNat * 65536) / 65536) = third := by
        apply UInt16.toNat_inj.mp
        simp
        omega
      rw [mapPoolOperands_of_jumbo _ kind jumbo, value, lowHalf, highHalf]
  | both kind narrow =>
      rw [mapPoolOperands_of_both _ kind narrow]
      simp
  | one kind narrow one =>
      rw [mapPoolOperands_of_one _ kind narrow one]
      simp

end Renumbered

/-! ## Code cut at instruction boundaries -/

/-- Code is made of these complete instructions, and of a rest that starts with none. -/
inductive Cut : (code : List UInt16) → (instructions : List (List UInt16)) →
    (rest : List UInt16) → Prop
  | done {rest : List UInt16}
      (incomplete : width? rest = none) :
      Cut rest [] rest
  | step {instruction tail rest : List UInt16} {instructions : List (List UInt16)}
      (declared : declaredWidth? (instruction ++ tail) = some instruction.length)
      (cut : Cut tail instructions rest) :
      Cut (instruction ++ tail) (instruction :: instructions) rest

namespace Cut

variable {code rest : List UInt16} {instructions : List (List UInt16)}

/-- Code is cut in one way only. -/
theorem splitFrom_eq
    (cut : Cut code instructions rest)
    {budget : Nat}
    (enough : code.length ≤ budget)
    (before : List (List UInt16)) :
    splitFrom budget before code =
      { instructions := before.reverse ++ instructions, rest } := by
  induction cut generalizing budget before with
  | done incomplete =>
      cases budget <;> simp [splitFrom, incomplete]
  | @step instruction tail rest instructions declared cut inductionHypothesis =>
      have positive := declaredWidth?_pos declared
      obtain ⟨budget, rfl⟩ : ∃ less, budget = less + 1 :=
        ⟨budget - 1, by simp at enough; omega⟩
      have complete : width? (instruction ++ tail) = some instruction.length :=
        width?_eq_some_iff.mpr ⟨declared, by simp⟩
      rw [splitFrom, complete]
      simp only [List.take_left, List.drop_left]
      rw [inductionHypothesis (by simp at enough; omega)]
      simp

/-- Splitting finds the boundaries. -/
theorem split_eq (cut : Cut code instructions rest) :
    split code = { instructions, rest } := by
  rw [split, cut.splitFrom_eq (Nat.le_refl _)]
  rfl

/-- All code can be cut. -/
theorem exists_cut (code : List UInt16) : ∃ instructions rest, Cut code instructions rest := by
  induction length : code.length using Nat.strongRecOn generalizing code with
  | ind size inductionHypothesis =>
      cases width : width? code with
      | none =>
          exact ⟨[], code, .done width⟩
      | some count =>
          obtain ⟨declared, complete⟩ := width?_eq_some_iff.mp width
          have positive := declaredWidth?_pos declared
          obtain ⟨instructions, rest, cut⟩ :=
            inductionHypothesis (code.drop count).length (by simp; omega) (code.drop count) rfl
          have whole : code.take count ++ code.drop count = code :=
            List.take_append_drop count code
          refine ⟨code.take count :: instructions, rest, ?_⟩
          have asks :
              declaredWidth? (code.take count ++ code.drop count) =
                some (code.take count).length := by
            rw [whole, declared, List.length_take_of_le complete]
          have step := Cut.step asks cut
          rwa [whole] at step

/-- What splitting finds are the boundaries. -/
theorem of_split (code : List UInt16) :
    Cut code (split code).instructions (split code).rest := by
  obtain ⟨instructions, rest, cut⟩ := exists_cut code
  rwa [cut.split_eq]

/-- Renumbered instructions stand between the same boundaries. -/
theorem map
    (cut : Cut code instructions rest)
    (renumber : RefMap) :
    Cut ((instructions.map (mapPoolOperands renumber)).flatten ++ rest)
      (instructions.map (mapPoolOperands renumber)) rest := by
  induction cut with
  | done incomplete =>
      exact .done incomplete
  | step declared cut inductionHypothesis =>
      rw [List.map_cons, List.flatten_cons, List.append_assoc]
      exact .step (declaredWidth?_mapPoolOperands renumber declared _) inductionHypothesis

end Cut

/-- Renumbered code is cut at the same boundaries. -/
theorem split_mapCodeOperands
    (renumber : RefMap)
    (code : List UInt16) :
    split (mapCodeOperands renumber code) =
      { instructions := (split code).instructions.map (mapPoolOperands renumber)
        rest := (split code).rest } :=
  ((Cut.of_split code).map renumber).split_eq

/-- Code whose operands keep their numbers stays as it is. -/
theorem mapCodeOperands_id (code : List UInt16) :
    mapCodeOperands (fun _ index => index) code = code := by
  have same : mapPoolOperands (fun _ index => index) = id :=
    funext mapPoolOperands_id
  simp only [mapCodeOperands, same, List.map_id]
  exact code_split code

end DexPatch
