import Mathlib.Data.List.Forall2
import DexPatch.Chain
import DexPatch.Instruction.Listing
import DexPatch.Proofs.Operands

namespace DexPatch

/-!
# Instructions and their units

A structured instruction has units of its own, and these are read back as that
instruction.  All other units stand for themselves, so that an instruction
fits its units in one way only.
-/

namespace Instruction

/-! ## What units stand for -/

/-- Units of an instruction with a structure: its opcode is one of six, and an invocation passes no
more registers than it has room for. -/
def Structured (units : List UInt16) : Prop :=
  ∃ first ∈ units.head?,
    opcodeOf first ∈
        [Opcode.const4, Opcode.moveResultObject, Opcode.returnValue, Opcode.returnObject,
          Opcode.sgetObject] ∨
      opcodeOf first = Opcode.invokeStatic ∧ first.toNat / 4096 ≤ 5

/-- What the units of a complete instruction stand for. -/
inductive StandsFor : List UInt16 → Instruction → Prop
  | const4 {first : UInt16}
      (opcode : opcodeOf first = Opcode.const4) :
      StandsFor [first]
        (.const4 (UInt8.ofNat ((highByte first).toNat % 16)) (literal4 (first.toNat / 4096)))
  | moveResultObject {first : UInt16}
      (opcode : opcodeOf first = Opcode.moveResultObject) :
      StandsFor [first] (.moveResultObject (highByte first))
  | returnValue {first : UInt16}
      (opcode : opcodeOf first = Opcode.returnValue) :
      StandsFor [first] (.returnValue (highByte first))
  | returnObject {first : UInt16}
      (opcode : opcodeOf first = Opcode.returnObject) :
      StandsFor [first] (.returnObject (highByte first))
  | invokeStatic {first method third : UInt16}
      (opcode : opcodeOf first = Opcode.invokeStatic)
      (few : first.toNat / 4096 ≤ 5) :
      StandsFor [first, method, third]
        (.invokeStatic method.toUInt32 ((packedArguments first third).take (first.toNat / 4096)))
  | sgetObject {first field : UInt16}
      (opcode : opcodeOf first = Opcode.sgetObject) :
      StandsFor [first, field] (.sgetObject (highByte first) field.toUInt32)
  | other {units : List UInt16}
      (unstructured : ¬ Structured units) :
      StandsFor units (.other units)

/-- A first unit with an opcode that is not that of a no-operation starts no payload. -/
theorem not_startsPayload
    {first : UInt16}
    {op : UInt8}
    (opcode : opcodeOf first = op)
    (isOther : op ≠ 0) :
    ¬ startsPayload first := by
  rintro payload
  simp only [startsPayload, Bool.and_eq_true, beq_iff_eq] at payload
  rw [opcodeOf, payload.1] at opcode
  exact isOther opcode.symm

/-- The opcode of a first unit tells how many units follow, unless a payload starts. -/
theorem length_of_opcode
    {first : UInt16}
    {rest tail : List UInt16}
    {op : UInt8}
    (declared : declaredWidth? (first :: rest ++ tail) = some (first :: rest).length)
    (opcode : opcodeOf first = op)
    (isOther : op ≠ 0) :
    rest.length + 1 = (Opcode.format op).width := by
  rw [List.cons_append, declaredWidth?_of_not_payload (not_startsPayload opcode isOther),
    opcode] at declared
  exact (Option.some.inj declared).symm

/-- Reading a complete instruction gives what its units stand for. -/
theorem standsFor_ofUnits
    {units tail : List UInt16}
    (declared : declaredWidth? (units ++ tail) = some units.length) :
    StandsFor units (ofUnits units) := by
  cases units with
  | nil =>
      exact absurd (declaredWidth?_pos declared) (Nat.lt_irrefl 0)
  | cons first rest =>
      have length {op : UInt8} (opcode : opcodeOf first = op) (isOther : op ≠ 0) :=
        length_of_opcode declared opcode isOther
      have single {op : UInt8} (opcode : opcodeOf first = op) (isOther : op ≠ 0)
          (isNarrow : (Opcode.format op).width = 1) : rest = [] :=
        List.length_eq_zero_iff.mp (Nat.succ.inj ((length opcode isOther).trans isNarrow))
      -- Opcodes are told apart in the order of `ofUnits`, and each fixes how many units there are.
      unfold ofUnits
      dsimp only
      split
      · next opcode =>
          obtain rfl : rest = [] := single opcode (by decide) (by decide)
          exact .const4 opcode
      · next notConst4 =>
        split
        · next opcode =>
            obtain rfl : rest = [] := single opcode (by decide) (by decide)
            exact .moveResultObject opcode
        · next notMoveResultObject =>
          split
          · next opcode =>
              obtain rfl : rest = [] := single opcode (by decide) (by decide)
              exact .returnValue opcode
          · next notReturnValue =>
            split
            · next opcode =>
                obtain rfl : rest = [] := single opcode (by decide) (by decide)
                exact .returnObject opcode
            · next notReturnObject =>
              split
              · next opcode =>
                  have three : rest.length + 1 = 3 := length opcode (by decide)
                  match rest, three with
                  | [method, third], _ =>
                    dsimp only
                    split
                    · next few => exact .invokeStatic opcode few
                    · next many =>
                        refine .other ?_
                        rintro ⟨_, ⟨⟩, structured | ⟨-, few⟩⟩
                        · rw [opcode] at structured
                          exact absurd structured (by decide)
                        · exact many few
              · next notInvokeStatic =>
                split
                · next opcode =>
                    have two : rest.length + 1 = 2 := length opcode (by decide)
                    match rest, two with
                    | [field], _ => exact .sgetObject opcode
                · next notSgetObject =>
                    refine .other ?_
                    simp [Structured, notConst4, notMoveResultObject, notReturnValue,
                      notReturnObject, notInvokeStatic, notSgetObject]

/-- Units are read as what they stand for. -/
theorem StandsFor.ofUnits_eq
    {units : List UInt16}
    {instruction : Instruction}
    (stands : StandsFor units instruction) :
    ofUnits units = instruction := by
  cases stands with
  | const4 opcode | moveResultObject opcode | returnValue opcode | returnObject opcode
  | sgetObject opcode =>
      unfold ofUnits
      dsimp only
      rw [opcode]
      rfl
  | invokeStatic opcode few =>
      unfold ofUnits
      dsimp only
      rw [opcode]
      exact if_pos few
  | other unstructured =>
      cases units with
      | nil =>
          rfl
      | cons first rest =>
          have isOther {op : UInt8}
              (structured :
                op ∈ [Opcode.const4, Opcode.moveResultObject, Opcode.returnValue,
                  Opcode.returnObject, Opcode.sgetObject]) :
              opcodeOf first ≠ op := by
            rintro rfl
            exact unstructured ⟨first, rfl, .inl structured⟩
          unfold ofUnits
          dsimp only
          rw [if_neg (isOther (by decide)), if_neg (isOther (by decide)),
            if_neg (isOther (by decide)), if_neg (isOther (by decide)),
            if_neg (@isOther Opcode.sgetObject (by decide))]
          split
          · next opcode =>
              split
              · exact if_neg fun few => unstructured ⟨first, rfl, .inr ⟨opcode, few⟩⟩
              · rfl
          · rfl

end Instruction

/-! ## Listings of bodies -/

/-- Every instruction that is cut off the code has the width that it declares. -/
theorem Cut.exists_tail
    {code rest : List UInt16}
    {instructions : List (List UInt16)}
    (cut : Cut code instructions rest)
    {instruction : List UInt16}
    (member : instruction ∈ instructions) :
    ∃ tail, declaredWidth? (instruction ++ tail) = some instruction.length := by
  induction cut with
  | done incomplete =>
      cases member
  | step declared cut inductionHypothesis =>
      rcases List.mem_cons.mp member with rfl | later
      · exact ⟨_, declared⟩
      · exact inductionHypothesis later

/-- What holds of each complete instruction and what it is changed to holds of all instructions of
code. -/
theorem forall₂_split
    {code : List UInt16}
    {holds : List UInt16 → List UInt16 → Prop}
    {change : List UInt16 → List UInt16}
    (each :
      ∀ {instruction tail : List UInt16}, instruction ∈ (split code).instructions →
        declaredWidth? (instruction ++ tail) = some instruction.length →
          holds instruction (change instruction)) :
    List.Forall₂ holds (split code).instructions ((split code).instructions.map change) := by
  refine List.forall₂_map_right_iff.mpr (List.forall₂_same.mpr fun instruction member => ?_)
  obtain ⟨tail, declared⟩ := (Cut.of_split code).exists_tail member
  exact each member declared

/-- Complete code is made of its instructions. -/
theorem flatten_of_complete
    {code : List UInt16}
    (complete : (split code).rest = []) :
    (split code).instructions.flatten = code := by
  have whole := code_split code
  rwa [Split.code, complete, List.append_nil] at whole

/-- Code is as long as other code with the same boundaries. -/
theorem length_flatten_eq
    {first second : List (List UInt16)}
    (boundaries : first.map List.length = second.map List.length) :
    first.flatten.length = second.flatten.length := by
  rw [List.length_flatten, List.length_flatten, boundaries]

namespace Listing

/-- A body has a listing if its code is complete: that of its instructions one by one. -/
theorem ofBody_eq_ok_iff
    {body : Body}
    {listing : Listing} :
    ofBody body = .ok listing ↔
      (split body.code).rest = [] ∧
        (split body.code).instructions.map Instruction.ofUnits = listing := by
  rw [ofBody, Split.fault?]
  cases (split body.code).rest <;> simp

/-- A body has no listing if its code is incomplete somewhere. -/
theorem ofBody_of_fault
    {body : Body}
    {unit : Nat}
    (isFault : (split body.code).fault? = some unit) :
    ofBody body = .error (.malformedBody unit) := by
  rw [ofBody, isFault]

end Listing

end DexPatch
