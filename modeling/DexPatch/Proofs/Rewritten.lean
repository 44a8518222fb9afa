import Mathlib.Data.List.Forall2
import DexPatch.Proofs.Listings
import DexPatch.Proofs.Rewriting

namespace DexPatch

/-!
# What renumbering in place changes

Renumbered code has the length and the boundaries of the code before, and its
instructions differ from those before at their operands only: these have the
new numbers of the entries that they name.  So a listing of it differs from
that of the code before in what its instructions name.
-/

/-! ## Where operands stand -/

/-- Where an instruction has the number of an entry: in one unit, or in two, the low one first. -/
structure OperandPlace where
  pool : Pool
  unit : Nat
  /-- Are there two units for the number? -/
  wide : Bool
deriving DecidableEq, Repr

namespace OperandPlace

/-- The units that an operand takes. -/
def units (place : OperandPlace) : List Nat :=
  if place.wide then [place.unit, place.unit + 1] else [place.unit]

/-- The instruction has this number at the place. -/
def Holds (place : OperandPlace) (instruction : List UInt16) (index : UInt32) : Prop :=
  if place.wide then
    ∃ low high,
      instruction[place.unit]? = some low ∧ instruction[place.unit + 1]? = some high ∧
        index.toNat = low.toNat + high.toNat * 65536
  else
    ∃ low, instruction[place.unit]? = some low ∧ index.toNat = low.toNat

end OperandPlace

/-- The places of an instruction's operands that refer to pools, as its first unit tells.  A payload
has none. -/
def operandPlaces (first : UInt16) : List OperandPlace :=
  let short (pool : Pool) : OperandPlace := { pool, unit := 1, wide := false }
  match operandKind first with
  | .none => []
  | .string =>
    [{ pool := .string, unit := 1, wide := opcodeOf first == Opcode.constStringJumbo }]
  | .type => [short .type]
  | .field => [short .field]
  | .method => [short .method]
  | .methodAndProto => [short .method, { pool := .proto, unit := 3, wide := false }]
  | .proto => [short .proto]
  | .callSite => [short .callSite]
  | .methodHandle => [short .methodHandle]

/-- The second instruction is the first with each operand replaced by the new number of the entry
that it names. -/
structure Rewritten (numbers : NewNumbers) (old new : List UInt16) : Prop where
  length : new.length = old.length
  others :
    ∀ unit, (∀ first ∈ old.head?, ∀ place ∈ operandPlaces first, unit ∉ place.units) →
      new[unit]? = old[unit]?
  operands :
    ∀ first ∈ old.head?, ∀ place ∈ operandPlaces first, ∃ before after,
      place.Holds old before ∧ place.Holds new after ∧ numbers place.pool before = some after

/-- The second instruction of a listing is the first with the entry that it names, or the operands
of its units, renumbered. -/
inductive Instruction.Rewritten (numbers : NewNumbers) : Instruction → Instruction → Prop
  | const4 (target : UInt8) (value : Int8) :
      Rewritten numbers (.const4 target value) (.const4 target value)
  | moveResultObject (target : UInt8) :
      Rewritten numbers (.moveResultObject target) (.moveResultObject target)
  | returnValue (source : UInt8) : Rewritten numbers (.returnValue source) (.returnValue source)
  | returnObject (source : UInt8) : Rewritten numbers (.returnObject source) (.returnObject source)
  | invokeStatic {old new : UInt32} (arguments : List UInt8)
      (number : numbers .method old = some new) :
      Rewritten numbers (.invokeStatic old arguments) (.invokeStatic new arguments)
  | sgetObject {old new : UInt32} (target : UInt8)
      (number : numbers .field old = some new) :
      Rewritten numbers (.sgetObject target old) (.sgetObject target new)
  | other {old new : List UInt16}
      (rewritten : DexPatch.Rewritten numbers old new) :
      Rewritten numbers (.other old) (.other new)

/-! ## What has been changed -/

theorem toNat_wideIndex (low high : UInt16) :
    (wideIndex low high).toNat = low.toNat + high.toNat * 65536 := by
  have := low.toNat_lt
  have := high.toNat_lt
  simp [wideIndex]
  omega

theorem operandPlaces_of_one
    {first : UInt16}
    {pool : Pool}
    (kind : (operandKind first).pool? = some pool)
    (single : operandKind first ≠ .methodAndProto)
    (narrow : opcodeOf first ≠ Opcode.constStringJumbo) :
    operandPlaces first = [{ pool, unit := 1, wide := false }] := by
  rw [operandPlaces]
  cases isKind : operandKind first <;> simp_all [IndexKind.pool?]

namespace NewNumbers

variable {numbers : NewNumbers}

theorem total_of_some
    {pool : Pool}
    {index number : UInt32}
    (isNumber : numbers pool index = some number) :
    numbers.total pool index = number := by
  rw [total, isNumber, Option.getD_some]

/-- An operand of one unit gets the new number of its entry. -/
theorem number_of_brief
    {pool : Pool}
    {unit : UInt16}
    (renumbers : numbers.Renumbers (.brief pool unit.toUInt32)) :
    numbers pool unit.toUInt32 = some (numbers.total pool unit.toUInt32).toUInt16.toUInt32 := by
  obtain ⟨number, isNumber, fits⟩ := renumbers
  have isTotal : numbers.total pool unit.toUInt32 = number := total_of_some isNumber
  rw [isTotal, toUInt32_toUInt16 (fits rfl)]
  exact isNumber

/-- An instruction whose operands have numbers that fit is changed at its operands only. -/
theorem rewritten_mapPoolOperands
    {instruction tail : List UInt16}
    (declared : declaredWidth? (instruction ++ tail) = some instruction.length)
    (renumbers : ∀ ref ∈ poolOperands instruction, numbers.Renumbers ref) :
    Rewritten numbers instruction (mapPoolOperands numbers.total instruction) := by
  have length := length_mapPoolOperands numbers.total instruction
  cases completeShape declared with
  | @none first rest kind =>
      have stays : mapPoolOperands numbers.total (first :: rest) = first :: rest := by
        cases rest <;> simp [mapPoolOperands, kind, IndexKind.pool?]
      rw [stays]
      exact ⟨rfl, fun _ _ => rfl, by simp [operandPlaces, kind]⟩
  | @jumbo first second third rest kind jumbo =>
      have isPool : (operandKind first).pool? = some .string := by rw [kind]; rfl
      have places : operandPlaces first = [{ pool := .string, unit := 1, wide := true }] := by
        simp [operandPlaces, kind, jumbo]
      rw [poolOperands_of_jumbo isPool jumbo, List.forall_mem_singleton] at renumbers
      obtain ⟨number, isNumber, -⟩ := renumbers
      rw [mapPoolOperands_of_jumbo _ isPool jumbo, total_of_some isNumber] at length ⊢
      refine ⟨length, fun unit untouched => ?_, ?_⟩
      · simp [places, OperandPlace.units] at untouched
        obtain _ | _ | _ | unit := unit
        · rfl
        · exact absurd rfl untouched.1
        · exact absurd rfl untouched.2
        · rfl
      · simp only [List.head?_cons, Option.mem_some_iff, forall_eq', places,
          List.forall_mem_singleton]
        have halves := congrArg UInt32.toNat (wideIndex_halves number)
        rw [toNat_wideIndex] at halves
        exact ⟨wideIndex second third, number, ⟨second, third, rfl, rfl, toNat_wideIndex ..⟩,
          ⟨_, _, rfl, rfl, halves.symm⟩, isNumber⟩
  | @both first second third fourth rest kind narrow =>
      have places :
          operandPlaces first =
            [{ pool := .method, unit := 1, wide := false },
              { pool := .proto, unit := 3, wide := false }] := by
        simp [operandPlaces, kind]
      rw [poolOperands_of_both kind narrow, List.forall_mem_cons,
        List.forall_mem_singleton] at renumbers
      have isMethod := number_of_brief renumbers.1
      have isProto := number_of_brief renumbers.2
      rw [mapPoolOperands_of_both _ kind narrow] at length ⊢
      refine ⟨length, fun unit untouched => ?_, ?_⟩
      · simp [places, OperandPlace.units] at untouched
        obtain _ | _ | _ | _ | unit := unit
        · rfl
        · exact absurd rfl untouched.1
        · rfl
        · exact absurd rfl untouched.2
        · rfl
      · simp only [List.head?_cons, Option.mem_some_iff, forall_eq', places]
        refine List.forall_mem_cons.mpr ⟨?_, List.forall_mem_singleton.mpr ?_⟩
        · exact ⟨second.toUInt32, _, ⟨second, rfl, rfl⟩, ⟨_, rfl, rfl⟩, isMethod⟩
        · exact ⟨fourth.toUInt32, _, ⟨fourth, rfl, rfl⟩, ⟨_, rfl, rfl⟩, isProto⟩
  | @one first second rest pool kind single narrow =>
      have places := operandPlaces_of_one kind single narrow
      have isOne : HasOneOperand first rest := fun both => absurd both single
      rw [poolOperands_of_one kind narrow isOne, List.forall_mem_singleton] at renumbers
      have isNumber := number_of_brief renumbers
      rw [mapPoolOperands_of_one _ kind narrow isOne] at length ⊢
      refine ⟨length, fun unit untouched => ?_, ?_⟩
      · simp [places, OperandPlace.units] at untouched
        obtain _ | _ | unit := unit
        · rfl
        · exact absurd rfl untouched
        · rfl
      · simp only [List.head?_cons, Option.mem_some_iff, forall_eq', places,
          List.forall_mem_singleton]
        exact ⟨second.toUInt32, _, ⟨second, rfl, rfl⟩, ⟨_, rfl, rfl⟩, isNumber⟩

end NewNumbers

/-! ## Instructions of a listing -/

namespace Instruction

variable {numbers : NewNumbers}

/-- The units of an instruction without a structure keep it so when they are renumbered. -/
theorem not_structured_mapPoolOperands
    {units : List UInt16}
    (unstructured : ¬ Structured units)
    (renumber : RefMap) :
    ¬ Structured (mapPoolOperands renumber units) := by
  cases units with
  | nil =>
      exact unstructured
  | cons first rest =>
      obtain ⟨others, shape, -⟩ := mapPoolOperands_cons renumber first rest
      rw [shape]
      exact unstructured

/-- The first unit of an instruction with an opcode says what its operand points into. -/
theorem operandKind_of_opcode
    {first : UInt16}
    {op : UInt8}
    (opcode : opcodeOf first = op)
    (isOther : op ≠ 0) :
    operandKind first = Opcode.indexKind op := by
  rw [operandKind, if_neg (not_startsPayload opcode isOther), opcode]

/-- The one operand of an instruction, where it has been renumbered. -/
theorem exists_operand
    {first second : UInt16}
    {rest : List UInt16}
    {pool : Pool}
    (kind : (operandKind first).pool? = some pool)
    (single : operandKind first ≠ .methodAndProto)
    (narrow : opcodeOf first ≠ Opcode.constStringJumbo)
    (renumbers : ∀ ref ∈ poolOperands (first :: second :: rest), numbers.Renumbers ref) :
    ∃ operand : UInt16,
      mapPoolOperands numbers.total (first :: second :: rest) = first :: operand :: rest ∧
        numbers pool second.toUInt32 = some operand.toUInt32 := by
  have isOne : HasOneOperand first rest := fun both => absurd both single
  rw [poolOperands_of_one kind narrow isOne, List.forall_mem_singleton] at renumbers
  exact ⟨_, mapPoolOperands_of_one _ kind narrow isOne, NewNumbers.number_of_brief renumbers⟩

/-- A complete instruction whose operands have numbers that fit is read as what it was before, with
these numbers. -/
theorem rewritten_ofUnits
    {units tail : List UInt16}
    (declared : declaredWidth? (units ++ tail) = some units.length)
    (renumbers : ∀ ref ∈ poolOperands units, numbers.Renumbers ref) :
    Rewritten numbers (ofUnits units) (ofUnits (mapPoolOperands numbers.total units)) := by
  have stands := standsFor_ofUnits declared
  generalize ofUnits units = old at stands ⊢
  cases stands with
  | @const4 first opcode =>
      change Rewritten numbers _ (ofUnits [first])
      rw [(StandsFor.const4 opcode).ofUnits_eq]
      exact .const4 _ _
  | @moveResultObject first opcode =>
      change Rewritten numbers _ (ofUnits [first])
      rw [(StandsFor.moveResultObject opcode).ofUnits_eq]
      exact .moveResultObject _
  | @returnValue first opcode =>
      change Rewritten numbers _ (ofUnits [first])
      rw [(StandsFor.returnValue opcode).ofUnits_eq]
      exact .returnValue _
  | @returnObject first opcode =>
      change Rewritten numbers _ (ofUnits [first])
      rw [(StandsFor.returnObject opcode).ofUnits_eq]
      exact .returnObject _
  | @invokeStatic first method third opcode few =>
      have kind : operandKind first = .method := operandKind_of_opcode opcode (by decide)
      have isPool : (operandKind first).pool? = some .method := by rw [kind]; rfl
      obtain ⟨operand, changed, isNumber⟩ :=
        exists_operand isPool (by rw [kind]; decide) (by rw [opcode]; decide) renumbers
      rw [changed, (StandsFor.invokeStatic opcode few).ofUnits_eq]
      exact .invokeStatic _ isNumber
  | @sgetObject first field opcode =>
      have kind : operandKind first = .field := operandKind_of_opcode opcode (by decide)
      have isPool : (operandKind first).pool? = some .field := by rw [kind]; rfl
      obtain ⟨operand, changed, isNumber⟩ :=
        exists_operand isPool (by rw [kind]; decide) (by rw [opcode]; decide) renumbers
      rw [changed, (StandsFor.sgetObject opcode).ofUnits_eq]
      exact .sgetObject _ isNumber
  | other unstructured =>
      rw [(StandsFor.other (not_structured_mapPoolOperands unstructured _)).ofUnits_eq]
      exact .other (NewNumbers.rewritten_mapPoolOperands declared renumbers)

end Instruction

/-! ## Code -/

/-- The second code is the first with the operands of its instructions renumbered: both are complete
and have the same boundaries. -/
structure CodeRewritten (numbers : NewNumbers) (old new : List UInt16) : Prop where
  length : new.length = old.length
  complete : (split old).rest = [] ∧ (split new).rest = []
  boundaries :
    (split new).instructions.map List.length = (split old).instructions.map List.length
  instructions : List.Forall₂ (Rewritten numbers) (split old).instructions (split new).instructions

namespace NewNumbers

variable {numbers : NewNumbers} {code : List UInt16}

/-- Renumbering leaves boundaries where they are and operands where they were. -/
theorem codeRewritten_mapCodeOperands
    (renumbers :
      ∀ instruction ∈ (split code).instructions, ∀ ref ∈ poolOperands instruction,
        numbers.Renumbers ref)
    (complete : (split code).rest = []) :
    CodeRewritten numbers code (mapCodeOperands numbers.total code) := by
  have boundaries :
      ((split code).instructions.map (mapPoolOperands numbers.total)).map List.length =
        (split code).instructions.map List.length := by
    simp
  have isChanged := split_mapCodeOperands numbers.total code
  have changedComplete : (split (mapCodeOperands numbers.total code)).rest = [] := by
    rw [isChanged, complete]
  refine ⟨?_, ⟨complete, changedComplete⟩, by rw [isChanged]; exact boundaries, ?_⟩
  · have isNew := flatten_of_complete changedComplete
    rw [isChanged] at isNew
    calc (mapCodeOperands numbers.total code).length
        = ((split code).instructions.map (mapPoolOperands numbers.total)).flatten.length := by
          rw [isNew]
      _ = (split code).instructions.flatten.length := length_flatten_eq boundaries
      _ = code.length := by rw [flatten_of_complete complete]
  · rw [isChanged]
    exact forall₂_split fun member declared =>
      rewritten_mapPoolOperands declared (renumbers _ member)

/-- A listing of renumbered code is that of the code before with the entries that it names
renumbered. -/
theorem listingRewritten_mapCodeOperands
    {body : Body}
    (renumbers :
      ∀ instruction ∈ (split body.code).instructions, ∀ ref ∈ poolOperands instruction,
        numbers.Renumbers ref)
    (complete : (split body.code).rest = []) :
    ∃ before after,
      Listing.ofBody body = .ok before ∧
        Listing.ofBody { body with code := mapCodeOperands numbers.total body.code } = .ok after ∧
          List.Forall₂ (Instruction.Rewritten numbers) before after := by
  have isChanged := split_mapCodeOperands numbers.total body.code
  refine ⟨_, _, Listing.ofBody_eq_ok_iff.mpr ⟨complete, rfl⟩,
    Listing.ofBody_eq_ok_iff.mpr ⟨by rw [isChanged, complete], rfl⟩, ?_⟩
  rw [isChanged, List.forall₂_map_left_iff, List.forall₂_map_right_iff]
  exact forall₂_split fun member declared =>
    Instruction.rewritten_ofUnits declared (renumbers _ member)

/-- Renumbering operands in place changes operands only and keeps to the boundaries of instructions.
It succeeds exactly on complete code all of whose operands get numbers that fit, and never asks for
a unit that is not there.  Code that it calls malformed has no listing either. -/
theorem rewrite_keeps_boundaries (numbers : NewNumbers) (body : Body) :
    (∀ unit, numbers.rewrite body.code ≠ .error (.outOfBounds unit)) ∧
      (∀ unit,
        numbers.rewrite body.code = .error (.refused (.malformedCode unit)) →
          Listing.ofBody body = .error (.malformedBody unit)) ∧
      ((∃ code, numbers.rewrite body.code = .ok code) ↔
        (∀ instruction ∈ (split body.code).instructions, ∀ ref ∈ poolOperands instruction,
            numbers.Renumbers ref) ∧
          (split body.code).rest = []) ∧
      ∀ code, numbers.rewrite body.code = .ok code →
        code = mapCodeOperands numbers.total body.code ∧
          CodeRewritten numbers body.code code ∧
          ∃ before after,
            Listing.ofBody body = .ok before ∧ Listing.ofBody { body with code } = .ok after ∧
              List.Forall₂ (Instruction.Rewritten numbers) before after := by
  refine ⟨rewrite_ne_outOfBounds, fun unit malformed => ?_, ?_, fun code rewritten => ?_⟩
  · exact Listing.ofBody_of_fault (fault?_of_rewrite malformed)
  · simp only [rewrite_eq_ok_iff, exists_and_left, exists_eq', and_true, checkCode_eq_ok_iff]
  · obtain ⟨checked, rfl⟩ := rewrite_eq_ok_iff.mp rewritten
    obtain ⟨renumbers, complete⟩ := checkCode_eq_ok_iff.mp checked
    exact ⟨rfl, codeRewritten_mapCodeOperands renumbers complete,
      listingRewritten_mapCodeOperands renumbers complete⟩

/-- Two units of a payload that read like an invocation stay as they are. -/
example :
    rewrite (fun _ index => some (index + 1))
        [0x0071, 7, 0x0000, 0x0100, 1, 0, 0, 0x0071, 0x0071] =
      .ok [0x0071, 8, 0x0000, 0x0100, 1, 0, 0, 0x0071, 0x0071] := by
  cbv

end NewNumbers

end DexPatch
