import DexPatch.Instruction.InPlace
import DexPatch.Proofs.Operands
import DexPatch.Proofs.Renumbered

namespace DexPatch

/-!
# Operands renumbered in place

The walk that renumbers operands in place looks for each instruction where
the one before it ends, in code that is changed already.  It finds the
boundaries that were there before and asks for no unit that is not there, so
it does what checking the code and renumbering it as a whole does.
-/

/-! ## Complete instructions have room for their operands -/

/-- The table of opcodes gives every instruction the units that its operands take. -/
theorem width_of_indexKind (op : UInt8) :
    ((Opcode.indexKind op).pool?.isSome → 2 ≤ (Opcode.format op).width) ∧
      (op = Opcode.constStringJumbo → 3 ≤ (Opcode.format op).width) ∧
        (Opcode.indexKind op = .methodAndProto → 4 ≤ (Opcode.format op).width) := by
  have table :
      ∀ n < 256,
        ((Opcode.indexKind (UInt8.ofNat n)).pool?.isSome →
            2 ≤ (Opcode.format (UInt8.ofNat n)).width) ∧
          (UInt8.ofNat n = Opcode.constStringJumbo →
              3 ≤ (Opcode.format (UInt8.ofNat n)).width) ∧
            (Opcode.indexKind (UInt8.ofNat n) = .methodAndProto →
              4 ≤ (Opcode.format (UInt8.ofNat n)).width) := by
    decide +kernel
  have here := table op.toNat op.toNat_lt
  rwa [UInt8.ofNat_toNat] at here

theorem IndexKind.pool?_eq_none_iff {kind : IndexKind} :
    kind.pool? = Option.none ↔ kind = .none := by
  cases kind <;> simp [pool?]

/-- Every complete instruction is of one of four shapes, and has all units of its operands. -/
inductive CompleteShape : List UInt16 → Prop
  | none {first : UInt16} {rest : List UInt16}
      (kind : operandKind first = .none) :
      CompleteShape (first :: rest)
  | jumbo {first second third : UInt16} {rest : List UInt16}
      (kind : operandKind first = .string)
      (jumbo : opcodeOf first = Opcode.constStringJumbo) :
      CompleteShape (first :: second :: third :: rest)
  | both {first second third fourth : UInt16} {rest : List UInt16}
      (kind : operandKind first = .methodAndProto)
      (narrow : opcodeOf first ≠ Opcode.constStringJumbo) :
      CompleteShape (first :: second :: third :: fourth :: rest)
  | one {first second : UInt16} {rest : List UInt16} {pool : Pool}
      (kind : (operandKind first).pool? = some pool)
      (single : operandKind first ≠ .methodAndProto)
      (narrow : opcodeOf first ≠ Opcode.constStringJumbo) :
      CompleteShape (first :: second :: rest)

theorem completeShape
    {instruction tail : List UInt16}
    (declared : declaredWidth? (instruction ++ tail) = some instruction.length) :
    CompleteShape instruction := by
  cases instruction with
  | nil =>
      exact absurd (declaredWidth?_pos declared) (Nat.lt_irrefl 0)
  | cons first rest =>
      by_cases noOperand : operandKind first = .none
      · exact .none noOperand
      · have noPayload : ¬ startsPayload first := by
          intro payload
          exact noOperand (by rw [operandKind, if_pos payload])
        have isKind : operandKind first = Opcode.indexKind (opcodeOf first) := by
          rw [operandKind, if_neg noPayload]
        rw [List.cons_append, declaredWidth?_of_not_payload noPayload, Option.some.injEq,
          List.length_cons] at declared
        -- What the table asks for is the width that is declared, and so the number of units.
        obtain ⟨forOne, forJumbo, forBoth⟩ := width_of_indexKind (opcodeOf first)
        rw [← isKind, declared] at forOne
        rw [declared] at forJumbo
        rw [← isKind, declared] at forBoth
        cases isPool : (operandKind first).pool? with
        | none =>
            exact absurd (IndexKind.pool?_eq_none_iff.mp isPool) noOperand
        | some pool =>
            by_cases jumbo : opcodeOf first = Opcode.constStringJumbo
            · have isString : operandKind first = .string := by
                rw [isKind, jumbo]
                decide
              have three := forJumbo jumbo
              rcases rest with _ | ⟨second, _ | ⟨third, rest⟩⟩
              · exact absurd three (by simp)
              · exact absurd three (by simp)
              · exact .jumbo isString jumbo
            · by_cases both : operandKind first = .methodAndProto
              · have four := forBoth both
                rcases rest with _ | ⟨second, _ | ⟨third, _ | ⟨fourth, rest⟩⟩⟩
                · exact absurd four (by simp)
                · exact absurd four (by simp)
                · exact absurd four (by simp)
                · exact .both both jumbo
              · have two := forOne (by rw [isPool]; rfl)
                rcases rest with _ | ⟨second, rest⟩
                · exact absurd two (by simp)
                · exact .one isPool both jumbo

/-! ## One instruction -/

/-- The unit at a position behind other code. -/
theorem unitAt_behind
    {before code : List UInt16}
    (unit : Nat)
    {value : UInt16}
    (found : code[unit]? = some value) :
    unitAt (before ++ code) (before.length + unit) = .ok value := by
  rw [unitAt, List.getElem?_append_right (Nat.le_add_right _ _), Nat.add_sub_cancel_left, found]

/-- A unit that is replaced behind other code. -/
theorem putUnit_behind
    {before code : List UInt16}
    (unit : Nat)
    (inside : unit < code.length)
    (value : UInt16) :
    putUnit (before ++ code) (before.length + unit) value =
      .ok (before ++ code.set unit value) := by
  rw [putUnit, if_pos (by rw [List.length_append]; omega),
    List.set_append_right _ _ (Nat.le_add_right _ _), Nat.add_sub_cancel_left]

namespace NewNumbers

variable (numbers : NewNumbers)

/-- The new number of an entry; a number that no entry has stays as it is. -/
def total : RefMap := fun pool index => (numbers pool index).getD index

/-- An operand names an entry, and the new number of the entry fits where the operand stands. -/
def Renumbers (ref : Reference) : Prop :=
  ∃ number, numbers ref.pool ref.index = some number ∧ (ref.short → number.toNat < 65536)

/-- Does an operand name an entry, and does its new number fit? -/
def checkOperand (ref : Reference) : Except EncodeError Unit :=
  match numbers ref.pool ref.index with
  | none => .error (.danglingIndex ref.pool ref.index)
  | some number =>
    if ref.short ∧ 65536 ≤ number.toNat then
      .error (.indexOverflow ref.pool number)
    else
      .ok ()

variable {numbers} {before tail : List UInt16} {β : Type}

/-- The number of an operand of two units is looked up where there is one. -/
theorem number_bind
    (pool : Pool)
    (index : UInt32)
    (next : UInt32 → Except RewriteError β) :
    numbers.number pool index >>= next =
      (numbers.checkOperand (.long pool index)).mapError .refused >>= fun _ =>
        next (numbers.total pool index) := by
  simp only [checkOperand, number, total, Reference.long]
  cases numbers pool index <;> rfl

/-- The number of an operand of one unit is looked up where there is one that fits. -/
theorem shortNumber_bind
    (pool : Pool)
    (index : UInt32)
    (next : UInt16 → Except RewriteError β) :
    numbers.shortNumber pool index >>= next =
      (numbers.checkOperand (.brief pool index)).mapError .refused >>= fun _ =>
        next (numbers.total pool index).toUInt16 := by
  simp only [checkOperand, shortNumber, number, total, Reference.brief]
  cases numbers pool index with
  | none =>
      rfl
  | some number =>
      show
        (if number.toNat < 65536 then Except.ok number.toUInt16 else
            .error (.refused (.indexOverflow pool number))) >>= next =
          (if True ∧ 65536 ≤ number.toNat then
            Except.error (EncodeError.indexOverflow pool number) else .ok ()).mapError .refused >>=
              fun _ => next number.toUInt16
      by_cases small : number.toNat < 65536
      · rw [if_pos small, if_neg fun wide => Nat.not_le.mpr small wide.2]
        rfl
      · rw [if_neg small, if_pos ⟨trivial, Nat.le_of_not_lt small⟩]
        rfl

/-- Renumbering one instruction in place checks its operands and changes nothing around it. -/
theorem rewriteAt_behind
    {instruction : List UInt16}
    (declared : declaredWidth? (instruction ++ tail) = some instruction.length) :
    numbers.rewriteAt (before ++ (instruction ++ tail)) before.length =
      ((poolOperands instruction).forM numbers.checkOperand).mapError .refused >>= fun _ =>
        .ok (before ++ (mapPoolOperands numbers.total instruction ++ tail)) := by
  have firstUnit (first : UInt16) (rest : List UInt16) :
      unitAt (before ++ (first :: rest)) before.length = .ok first :=
    unitAt_behind 0 rfl
  have secondUnit (first second : UInt16) (rest : List UInt16) :
      (before ++ (first :: second :: rest))[before.length + 1]?.getD 0 = second := by
    simp
  cases completeShape declared with
  | @none first rest kind =>
      obtain ⟨refersToNone, stays⟩ :
          poolOperands (first :: rest) = [] ∧
            mapPoolOperands numbers.total (first :: rest) = first :: rest := by
        cases rest <;> simp [poolOperands, mapPoolOperands, kind, IndexKind.pool?]
      rw [refersToNone, stays, rewriteAt, List.cons_append, bind_of_ok (firstUnit _ _), kind]
      rfl
  | @jumbo first second third rest kind jumbo =>
      have isPool : (operandKind first).pool? = some .string := by rw [kind]; rfl
      rw [poolOperands_of_jumbo isPool jumbo, mapPoolOperands_of_jumbo _ isPool jumbo, rewriteAt,
        forM_singleton]
      simp only [List.cons_append]
      rw [bind_of_ok (firstUnit _ _), isPool]
      dsimp only
      rw [if_pos jumbo, bind_of_ok (unitAt_behind 1 rfl),
        bind_of_ok (unitAt_behind 2 rfl), number_bind,
        bind_of_ok (putUnit_behind 1 (by simp) _), putUnit_behind 2 (by simp)]
      rfl
  | @both first second third fourth rest kind narrow =>
      have isPool : (operandKind first).pool? = some .method := by rw [kind]; rfl
      rw [poolOperands_of_both kind narrow, mapPoolOperands_of_both _ kind narrow, rewriteAt,
        List.forM, forM_singleton, mapError_bind, bind_assoc]
      simp only [List.cons_append]
      rw [bind_of_ok (firstUnit _ _), isPool]
      dsimp only
      rw [if_neg narrow, secondUnit, shortNumber_bind,
        bind_of_ok (putUnit_behind 1 (by simp) _), if_pos kind,
        bind_of_ok (unitAt_behind 3 rfl), shortNumber_bind,
        putUnit_behind 3 (by simp)]
      rfl
  | @one first second rest pool kind single narrow =>
      rw [poolOperands_of_one kind narrow fun both => absurd both single,
        mapPoolOperands_of_one _ kind narrow fun both => absurd both single, rewriteAt,
        forM_singleton]
      simp only [List.cons_append]
      rw [bind_of_ok (firstUnit _ _), kind]
      dsimp only
      rw [if_neg narrow, secondUnit, shortNumber_bind,
        bind_of_ok (putUnit_behind 1 (by simp) _), if_neg single]
      rfl

/-! ## The walk over all instructions -/

/-- Can the operands of code be renumbered?  They are looked up in order, as far as complete
instructions go, and then there must be no rest. -/
def checkCode (numbers : NewNumbers) (code : List UInt16) : Except EncodeError Unit := do
  let parts := split code
  (parts.instructions.flatMap poolOperands).forM numbers.checkOperand
  match parts.fault? with
  | some unit => throw (.malformedCode unit)
  | none => pure ()

variable (numbers) in
/-- Walking over code, behind code that is changed already, checks and changes one instruction after
the other. -/
theorem rewriteFrom_behind
    {code rest : List UInt16}
    {instructions : List (List UInt16)}
    (cut : Cut code instructions rest)
    (before : List UInt16) :
    numbers.rewriteFrom (before ++ code) before.length =
      ((instructions.flatMap poolOperands).forM numbers.checkOperand).mapError .refused >>= fun _ =>
        if rest = [] then
          .ok (before ++ (instructions.map (mapPoolOperands numbers.total)).flatten)
        else
          .error (.refused (.malformedCode (before.length + instructions.flatten.length))) := by
  -- The cut is one of the code as it was, but the walk has changed all that lies before it.
  induction cut generalizing before with
  | @done rest incomplete =>
      rw [List.flatMap_nil, List.forM, List.map_nil, List.flatten_nil, List.append_nil,
        List.length_nil, Nat.add_zero]
      by_cases isEnd : rest = []
      · rw [rewriteFrom_of_end (by simp [isEnd]), isEnd, if_pos rfl, List.append_nil]
        rfl
      · have inside : before.length < (before ++ rest).length := by
          have := List.length_pos_iff.mpr isEnd
          rw [List.length_append]
          omega
        have fails : widthAt (before ++ rest) before.length =
            .error (.malformedCode before.length) := by
          rw [widthAt, List.drop_left, incomplete]
        rw [rewriteFrom_of_incomplete inside fails, if_neg isEnd]
        rfl
  | @step instruction tail rest instructions declared cut inductionHypothesis =>
      have inside : before.length < (before ++ (instruction ++ tail)).length := by
        have := declaredWidth?_pos declared
        simp only [List.length_append]
        omega
      have isWidth :
          widthAt (before ++ (instruction ++ tail)) before.length = .ok instruction.length := by
        rw [widthAt, List.drop_left, width?_eq_some_iff.mpr ⟨declared, by simp⟩]
      have changed := inductionHypothesis (before ++ mapPoolOperands numbers.total instruction)
      simp only [List.length_append, length_mapPoolOperands, List.append_assoc,
        Nat.add_assoc] at changed
      rw [rewriteFrom_of_complete inside isWidth, rewriteAt_behind declared, bind_assoc,
        List.flatMap_cons, forM_append, mapError_bind, bind_assoc, List.map_cons,
        List.flatten_cons, List.flatten_cons, List.length_append, ← changed]
      rfl

/-- Renumbering code in place checks it, and gives the code with each instruction renumbered. -/
theorem rewrite_eq (code : List UInt16) :
    numbers.rewrite code =
      ((numbers.checkCode code).map fun _ => mapCodeOperands numbers.total code).mapError
        .refused := by
  have walked := rewriteFrom_behind numbers (Cut.of_split code) []
  rw [List.nil_append, List.nil_append, List.length_nil, Nat.zero_add] at walked
  rw [rewrite, walked, checkCode, mapCodeOperands, Split.fault?]
  cases ((split code).instructions.flatMap poolOperands).forM numbers.checkOperand with
  | error reason =>
      rfl
  | ok _ =>
      cases (split code).rest with
      | nil =>
          rw [List.append_nil]
          rfl
      | cons unit rest =>
          rfl

theorem checkOperand_eq_ok_iff {ref : Reference} :
    numbers.checkOperand ref = .ok () ↔ numbers.Renumbers ref := by
  rw [checkOperand, Renumbers]
  cases numbers ref.pool ref.index with
  | none =>
      simp
  | some number =>
      simp only [Option.some.injEq, exists_eq_left']
      by_cases wide : ref.short ∧ 65536 ≤ number.toNat
      · simp [wide]
      · simp only [if_neg wide, true_iff]
        exact fun short => Nat.lt_of_not_le fun large => wide ⟨short, large⟩

theorem checkCode_eq_ok_iff {code : List UInt16} :
    numbers.checkCode code = .ok () ↔
      (∀ instruction ∈ (split code).instructions, ∀ ref ∈ poolOperands instruction,
          numbers.Renumbers ref) ∧
        (split code).rest = [] := by
  rw [checkCode, then_eq_ok_iff, forM_eq_ok_iff, List.forall_mem_flatMap, Split.fault?]
  simp only [checkOperand_eq_ok_iff]
  cases (split code).rest with
  | nil =>
      simp [pure, Except.pure]
  | cons unit rest =>
      simp [throw, throwThe, MonadExceptOf.throw]

/-- Operands are no reason to call code malformed. -/
theorem checkOperand_ne_malformedCode (ref : Reference) (unit : Nat) :
    numbers.checkOperand ref ≠ .error (.malformedCode unit) := by
  rw [checkOperand]
  split
  · simp
  · split <;> simp

/-- Code is refused as malformed where its first incomplete instruction starts. -/
theorem fault?_of_checkCode
    {code : List UInt16}
    {unit : Nat}
    (malformed : numbers.checkCode code = .error (.malformedCode unit)) :
    (split code).fault? = some unit := by
  rw [checkCode] at malformed
  cases checked : ((split code).instructions.flatMap poolOperands).forM numbers.checkOperand with
  | error reason =>
      rw [checked] at malformed
      cases malformed
      obtain ⟨ref, -, fails⟩ := exists_of_forM_eq_error checked
      exact absurd fails (checkOperand_ne_malformedCode ref unit)
  | ok _ =>
      rw [bind_of_ok checked] at malformed
      split at malformed
      · next fault isFault =>
          cases malformed
          exact isFault
      · cases malformed

variable {code : List UInt16}

/-- Code is renumbered if it passes the check. -/
theorem rewrite_eq_ok_iff {changed : List UInt16} :
    numbers.rewrite code = .ok changed ↔
      numbers.checkCode code = .ok () ∧ mapCodeOperands numbers.total code = changed := by
  rw [rewrite_eq, mapError_eq_ok_iff]
  cases numbers.checkCode code <;> simp [Except.map]

/-- No unit is asked for that the code does not have. -/
theorem rewrite_ne_outOfBounds (unit : Nat) :
    numbers.rewrite code ≠ .error (.outOfBounds unit) := by
  rw [rewrite_eq]
  cases numbers.checkCode code <;> simp [Except.map, mapError_ok, mapError_error]

/-- Code that is refused as malformed is incomplete at the unit that is reported. -/
theorem fault?_of_rewrite
    {unit : Nat}
    (malformed : numbers.rewrite code = .error (.refused (.malformedCode unit))) :
    (split code).fault? = some unit := by
  suffices numbers.checkCode code = .error (.malformedCode unit) from fault?_of_checkCode this
  rw [rewrite_eq] at malformed
  cases checked : numbers.checkCode code with
  | error reason =>
      rw [checked] at malformed
      simpa [Except.map, mapError_error] using malformed
  | ok _ =>
      rw [checked] at malformed
      simp [Except.map, mapError_ok] at malformed

end NewNumbers

/-! ## Code that is written -/

namespace Container

variable {container : Container} {renumbering : Renumbering}

/-- The new numbers of a container's entries. -/
def newNumbers (container : Container) (renumbering : Renumbering) : NewNumbers :=
  fun pool index =>
    if index.toNat < container.poolSize pool then some (renumbering.map pool index) else none

/-- A number that no entry has stays as it is. -/
theorem map_of_le
    (covers : renumbering.Covers container)
    {pool : Pool}
    {index : UInt32}
    (outside : container.poolSize pool ≤ index.toNat) :
    renumbering.map pool index = index := by
  cases pool with
  | string => exact covers.strings.rank_of_le outside
  | type => exact covers.types.rank_of_le outside
  | proto => exact covers.protos.rank_of_le outside
  | field => exact covers.fields.rank_of_le outside
  | method => exact covers.methods.rank_of_le outside
  | _ => rfl

theorem total_newNumbers (covers : renumbering.Covers container) :
    (container.newNumbers renumbering).total = renumbering.map := by
  funext pool index
  rw [NewNumbers.total, newNumbers]
  split
  · rfl
  · next outside =>
      exact (map_of_le covers (Nat.le_of_not_lt outside)).symm

/-- A reference that is checked once it has its new number is checked as it was before. -/
theorem checkRef_renumber
    (covers : renumbering.Covers container)
    (ref : Reference) :
    (container.renumbered renumbering).checkRef (ref.renumber renumbering.map) =
      (container.newNumbers renumbering).checkOperand ref := by
  have sameSide := map_lt_poolSize_iff covers ref.pool ref.index
  rw [checkRef, poolSize_renumbered covers, NewNumbers.checkOperand, newNumbers]
  change
    (if container.poolSize ref.pool ≤ (renumbering.map ref.pool ref.index).toNat then _ else _) = _
  by_cases inside : ref.index.toNat < container.poolSize ref.pool
  · rw [if_pos inside, if_neg (Nat.not_le.mpr (sameSide.mpr inside))]
    rfl
  · have stays : ref.renumber renumbering.map = ref := by
      rw [Reference.renumber, map_of_le covers (Nat.le_of_not_lt inside)]
    rw [if_neg inside, if_pos (Nat.le_of_not_lt (mt sameSide.mp inside)), stays]

theorem checkRefs_renumber
    (covers : renumbering.Covers container)
    (refs : List Reference) :
    (container.renumbered renumbering).checkRefs (refs.map (Reference.renumber renumbering.map)) =
      refs.forM (container.newNumbers renumbering).checkOperand := by
  rw [checkRefs]
  induction refs with
  | nil =>
      rfl
  | cons ref rest inductionHypothesis =>
      rw [List.map_cons, List.forM, checkRef_renumber covers, inductionHypothesis, List.forM]

/-- The code of a body that passes the check is written as renumbering in place leaves it. -/
theorem rewrite_of_checkBody
    (covers : renumbering.Covers container)
    {body : Body}
    (checked : (container.renumbered renumbering).checkBody renumbering.map body = .ok ()) :
    (container.newNumbers renumbering).rewrite body.code =
      .ok (body.mapRefs renumbering.map).code := by
  have fits := checkBody_eq_ok_iff.mp checked
  refine NewNumbers.rewrite_eq_ok_iff.mpr ⟨?_, by rw [total_newNumbers covers]; rfl⟩
  refine NewNumbers.checkCode_eq_ok_iff.mpr ⟨fun instruction member ref isOperand => ?_,
    fits.complete⟩
  rw [← NewNumbers.checkOperand_eq_ok_iff, ← checkRef_renumber covers, checkRef_eq_ok_iff]
  exact fits.operands instruction member ref isOperand

/-- The check of a body fails as renumbering in place does. -/
theorem checkBody_of_rewrite
    (covers : renumbering.Covers container)
    {body : Body}
    {reason : EncodeError}
    (refused : (container.newNumbers renumbering).rewrite body.code = .error (.refused reason)) :
    (container.renumbered renumbering).checkBody renumbering.map body = .error reason := by
  rw [NewNumbers.rewrite_eq, NewNumbers.checkCode] at refused
  rw [checkBody, checkRefs_renumber covers]
  cases operands :
      ((split body.code).instructions.flatMap poolOperands).forM
        (container.newNumbers renumbering).checkOperand with
  | error other =>
      rw [operands] at refused
      cases refused
      rfl
  | ok _ =>
      rw [bind_of_ok operands] at refused
      cases fault : (split body.code).fault? with
      | none =>
          rw [fault] at refused
          cases refused
      | some unit =>
          rw [fault] at refused
          cases refused
          rfl

end Container

end DexPatch
