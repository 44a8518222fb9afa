import DexPatch.Instruction.InPlace
import DexPatch.Proofs.Listings

namespace DexPatch

/-!
# Assembled listings

Every instruction has units of its own once its operands fit.  A listing is
assembled if that holds of all its instructions, if control cannot run off its
end and if it covers the try ranges of the body.  The body that it is
assembled into then reads as that listing again.
-/

/-- The opcodes of the returns, the throw and the gotos. -/
def Opcode.endings : List UInt8 := [0x0e, 0x0f, 0x10, 0x11, 0x27, 0x28, 0x29, 0x2a]

theorem Opcode.isTerminal_iff {op : UInt8} : isTerminal op = true ↔ op ∈ endings := by
  have table :
      ∀ n < 256, isTerminal (UInt8.ofNat n) = true ↔ UInt8.ofNat n ∈ endings := by
    decide +kernel
  have here := table op.toNat op.toNat_lt
  rwa [UInt8.ofNat_toNat] at here

theorem toNat_opcodeOf (unit : UInt16) : (opcodeOf unit).toNat = unit.toNat % 256 := by
  rw [opcodeOf, UInt8.toNat_ofNat']
  omega

/-- Units with these opcodes pass no registers on. -/
theorem argumentCount?_eq_none
    {unit : UInt16}
    {op : UInt8}
    (opcode : opcodeOf unit = op)
    (passesNone :
      op ∈ [Opcode.const4, Opcode.moveResultObject, Opcode.returnValue, Opcode.returnObject,
        Opcode.sgetObject]) :
    argumentCount? unit = none := by
  have low := toNat_opcodeOf unit
  rw [opcode] at low
  simp only [List.mem_cons, List.not_mem_nil, or_false] at passesNone
  rw [argumentCount?, ← low]
  rcases passesNone with rfl | rfl | rfl | rfl | rfl <;> rfl

/-- An invocation of a static method passes as many registers on as it counts. -/
theorem argumentCount?_of_invokeStatic
    {unit : UInt16}
    (opcode : opcodeOf unit = Opcode.invokeStatic) :
    argumentCount? unit = some (UInt16.ofNat (unit.toNat / 4096)) := by
  have low := toNat_opcodeOf unit
  rw [opcode] at low
  rw [argumentCount?, ← low]
  rfl

namespace Instruction

/-! ## Operands that fit -/

/-- The frame has this register, and its number fits an operand of some bits. -/
def InFrame (registers : UInt16) (bits : Nat) (register : UInt8) : Prop :=
  register.toNat < 1 <<< bits ∧ register.toNat < registers.toNat

/-- All operands of an instruction fit.  Units are taken as they are, if there are some. -/
def Fits (registers : UInt16) : Instruction → Prop
  | .const4 target value => (-8 ≤ value.toInt ∧ value.toInt ≤ 7) ∧ InFrame registers 4 target
  | .moveResultObject target => InFrame registers 8 target
  | .returnValue source => InFrame registers 8 source
  | .returnObject source => InFrame registers 8 source
  | .invokeStatic method arguments =>
    arguments.length ≤ 5 ∧ (∀ argument ∈ arguments, InFrame registers 4 argument) ∧
      method.toNat < 65536
  | .sgetObject target field => InFrame registers 8 target ∧ field.toNat < 65536
  | .other units => units ≠ []

/-- The argument of an invocation at a position, or zero behind the last one. -/
def argumentAt (arguments : List UInt8) (position : Nat) : Nat :=
  (arguments[position]?.map UInt8.toNat).getD 0

/-- The first unit of an invocation: its count of arguments, the fifth one and its opcode. -/
def invocationUnit (arguments : List UInt8) : UInt16 :=
  firstUnit (arguments.length * 16 + argumentAt arguments 4) Opcode.invokeStatic

/-- The first four arguments of an invocation. -/
def packedUnit (arguments : List UInt8) : UInt16 :=
  let slot := argumentAt arguments
  UInt16.ofNat (slot 0 + slot 1 * 16 + slot 2 * 256 + slot 3 * 4096)

/-- The units of an instruction whose operands fit. -/
def written : Instruction → List UInt16
  | .const4 target value =>
    [firstUnit ((value.toInt % 16).toNat * 16 + target.toNat) Opcode.const4]
  | .moveResultObject target => [firstUnit target.toNat Opcode.moveResultObject]
  | .returnValue source => [firstUnit source.toNat Opcode.returnValue]
  | .returnObject source => [firstUnit source.toNat Opcode.returnObject]
  | .invokeStatic method arguments =>
    [invocationUnit arguments, method.toUInt16, packedUnit arguments]
  | .sgetObject target field => [firstUnit target.toNat Opcode.sgetObject, field.toUInt16]
  | .other units => units

theorem checkedRegister_eq_ok_iff
    {registers : UInt16}
    {bits number : Nat}
    {register : UInt8} :
    checkedRegister registers bits register = .ok number ↔
      InFrame registers bits register ∧ register.toNat = number := by
  rw [checkedRegister, InFrame]
  split
  · next wide =>
      simp only [reduceCtorEq, false_iff]
      omega
  · next narrow =>
      split
      · next outside =>
          simp only [reduceCtorEq, false_iff]
          omega
      · next inside =>
          simp only [Except.ok.injEq]
          omega

theorem checkedIndex_eq_ok_iff
    {index : UInt32}
    {number : UInt16} :
    checkedIndex index = .ok number ↔ index.toNat < 65536 ∧ index.toUInt16 = number := by
  rw [checkedIndex]
  split <;> simp [*]

theorem mapM_checkedRegister_eq_ok_iff
    {registers : UInt16}
    {bits : Nat}
    {arguments : List UInt8}
    {slots : List Nat} :
    arguments.mapM (checkedRegister registers bits) = .ok slots ↔
      (∀ argument ∈ arguments, InFrame registers bits argument) ∧
        arguments.map UInt8.toNat = slots := by
  induction arguments generalizing slots with
  | nil =>
      simp [pure, Except.pure]
  | cons argument rest inductionHypothesis =>
      rw [List.mapM_cons, List.forall_mem_cons, List.map_cons]
      simp only [bind_eq_ok_iff, checkedRegister_eq_ok_iff, inductionHypothesis]
      constructor
      · rintro ⟨_, ⟨inFrame, rfl⟩, _, ⟨others, rfl⟩, ⟨⟩⟩
        exact ⟨⟨inFrame, others⟩, rfl⟩
      · rintro ⟨⟨inFrame, others⟩, rfl⟩
        exact ⟨_, ⟨inFrame, rfl⟩, _, ⟨others, rfl⟩, rfl⟩

/-- An instruction is encoded exactly if its operands fit. -/
theorem units_eq_ok_iff
    {registers : UInt16}
    {position : Nat}
    {instruction : Instruction}
    {units : List UInt16} :
    instruction.units registers position = .ok units ↔
      instruction.Fits registers ∧ instruction.written = units := by
  cases instruction with
  | const4 target value =>
      rw [Instruction.units, Fits, written]
      split
      · next wide =>
          simp [throw, throwThe, MonadExceptOf.throw, bind, Except.bind]
          omega
      · next narrow =>
          simp only [bind_eq_ok_iff, checkedRegister_eq_ok_iff]
          constructor
          · rintro ⟨_, ⟨inFrame, rfl⟩, ⟨⟩⟩
            exact ⟨⟨by omega, inFrame⟩, rfl⟩
          · rintro ⟨⟨-, inFrame⟩, rfl⟩
            exact ⟨_, ⟨inFrame, rfl⟩, rfl⟩
  | moveResultObject register | returnValue register | returnObject register =>
      rw [Instruction.units, Fits, written]
      simp only [bind_eq_ok_iff, checkedRegister_eq_ok_iff]
      constructor
      · rintro ⟨_, ⟨inFrame, rfl⟩, ⟨⟩⟩
        exact ⟨inFrame, rfl⟩
      · rintro ⟨inFrame, rfl⟩
        exact ⟨_, ⟨inFrame, rfl⟩, rfl⟩
  | invokeStatic method arguments =>
      rw [Instruction.units, Fits, written]
      split
      · next many =>
          simp [throw, throwThe, MonadExceptOf.throw, bind, Except.bind]
          omega
      · next few =>
          simp only [bind_eq_ok_iff, mapM_checkedRegister_eq_ok_iff, checkedIndex_eq_ok_iff]
          constructor
          · rintro ⟨_, ⟨inFrame, rfl⟩, _, ⟨small, rfl⟩, packed⟩
            refine ⟨⟨Nat.le_of_not_lt few, inFrame, small⟩, ?_⟩
            simpa [invocationUnit, packedUnit, argumentAt, pure, Except.pure] using packed
          · rintro ⟨⟨-, inFrame, small⟩, rfl⟩
            refine ⟨_, ⟨inFrame, rfl⟩, _, ⟨small, rfl⟩, ?_⟩
            simp [invocationUnit, packedUnit, argumentAt, pure, Except.pure]
  | sgetObject target field =>
      rw [Instruction.units, Fits, written]
      simp only [bind_eq_ok_iff, checkedRegister_eq_ok_iff, checkedIndex_eq_ok_iff]
      constructor
      · rintro ⟨_, ⟨inFrame, rfl⟩, _, ⟨small, rfl⟩, ⟨⟩⟩
        exact ⟨⟨inFrame, small⟩, rfl⟩
      · rintro ⟨⟨inFrame, small⟩, rfl⟩
        exact ⟨_, ⟨inFrame, rfl⟩, _, ⟨small, rfl⟩, rfl⟩
  | other units =>
      rw [Instruction.units, Fits, written]
      cases units <;> simp [throw, throwThe, MonadExceptOf.throw, pure, Except.pure]

/-! ## First units -/

theorem toNat_firstUnit
    {high : Nat}
    (small : high < 256)
    (op : UInt8) :
    (firstUnit high op).toNat = high * 256 + op.toNat := by
  have := op.toNat_lt
  rw [firstUnit, UInt16.toNat_ofNat']
  omega

theorem opcodeOf_firstUnit
    {high : Nat}
    (small : high < 256)
    (op : UInt8) :
    opcodeOf (firstUnit high op) = op := by
  have bound : op.toNat < 256 := op.toNat_lt
  apply UInt8.toNat_inj.mp
  rw [opcodeOf, toNat_firstUnit small, UInt8.toNat_ofNat']
  omega

theorem highByte_firstUnit
    {high : Nat}
    (small : high < 256)
    (op : UInt8) :
    highByte (firstUnit high op) = UInt8.ofNat high := by
  have bound : op.toNat < 256 := op.toNat_lt
  rw [highByte, toNat_firstUnit small]
  congr 1
  omega

/-- A first unit has room for any register beside its opcode. -/
theorem highByte_register (register op : UInt8) :
    highByte (firstUnit register.toNat op) = register := by
  rw [highByte_firstUnit register.toNat_lt, UInt8.ofNat_toNat]

/-! ## Invocations -/

section Invocation

variable {arguments : List UInt8}
  (few : arguments.length ≤ 5)
  (narrow : ∀ argument ∈ arguments, argument.toNat < 16)

include narrow

theorem argumentAt_lt (position : Nat) : argumentAt arguments position < 16 := by
  rw [argumentAt]
  cases found : arguments[position]? with
  | none =>
      decide
  | some argument =>
      exact narrow argument (List.mem_of_getElem? found)

theorem toNat_packedUnit :
    (packedUnit arguments).toNat =
      argumentAt arguments 0 + argumentAt arguments 1 * 16 + argumentAt arguments 2 * 256 +
        argumentAt arguments 3 * 4096 := by
  have := argumentAt_lt narrow 0
  have := argumentAt_lt narrow 1
  have := argumentAt_lt narrow 2
  have := argumentAt_lt narrow 3
  rw [packedUnit, UInt16.toNat_ofNat']
  omega

include few

theorem toNat_invocationUnit :
    (invocationUnit arguments).toNat =
      arguments.length * 4096 + argumentAt arguments 4 * 256 + 113 := by
  have := argumentAt_lt narrow 4
  have isFirst := @toNat_firstUnit (arguments.length * 16 + argumentAt arguments 4) (by omega)
    Opcode.invokeStatic
  change _ = _ + 113 at isFirst
  rw [invocationUnit, isFirst]
  omega

theorem opcodeOf_invocationUnit : opcodeOf (invocationUnit arguments) = Opcode.invokeStatic := by
  have := argumentAt_lt narrow 4
  exact opcodeOf_firstUnit (by omega) _

theorem count_invocationUnit : (invocationUnit arguments).toNat / 4096 = arguments.length := by
  have := argumentAt_lt narrow 4
  rw [toNat_invocationUnit few narrow]
  omega

/-- The units of an invocation hold its arguments, and zeros behind them. -/
theorem packedArguments_written :
    packedArguments (invocationUnit arguments) (packedUnit arguments) =
      (List.range 5).map fun position => UInt8.ofNat (argumentAt arguments position) := by
  have := argumentAt_lt narrow 0
  have := argumentAt_lt narrow 1
  have := argumentAt_lt narrow 2
  have := argumentAt_lt narrow 3
  have := argumentAt_lt narrow 4
  have first := toNat_invocationUnit few narrow
  have third := toNat_packedUnit narrow
  have nibble0 : (packedUnit arguments).toNat % 16 = argumentAt arguments 0 := by omega
  have nibble1 : (packedUnit arguments).toNat / 16 % 16 = argumentAt arguments 1 := by omega
  have nibble2 : (packedUnit arguments).toNat / 256 % 16 = argumentAt arguments 2 := by omega
  have nibble3 : (packedUnit arguments).toNat / 4096 = argumentAt arguments 3 := by omega
  have nibble4 : (invocationUnit arguments).toNat / 256 % 16 = argumentAt arguments 4 := by omega
  rw [packedArguments, nibble0, nibble1, nibble2, nibble3, nibble4]
  rfl

/-- The registers of an invocation are read as they were packed. -/
theorem take_packedArguments_written :
    (packedArguments (invocationUnit arguments) (packedUnit arguments)).take arguments.length =
      arguments := by
  rw [packedArguments_written few narrow]
  apply List.ext_getElem
  · simp [few]
  · intro position _ inside
    simp [argumentAt, inside]

end Invocation

/-! ## Reading what was written -/

/-- The literal of an instruction that fits is read as it was. -/
theorem literal4_of_fits
    {value : Int8}
    (fits : -8 ≤ value.toInt ∧ value.toInt ≤ 7) :
    literal4 (value.toInt % 16).toNat = value := by
  have same :
      (if (value.toInt % 16).toNat < 8 then ((value.toInt % 16).toNat : Int)
        else ((value.toInt % 16).toNat : Int) - 16) = value.toInt := by
    split <;> omega
  rw [literal4, same, Int8.ofInt_toInt]

/-- Units are those of one whole instruction or payload that has no structure. -/
def Whole : Instruction → Prop
  | .other units => width? units = some units.length ∧ ¬ Structured units
  | _ => True

/-- The units of an instruction stand for it. -/
theorem standsFor_written
    {registers : UInt16}
    {instruction : Instruction}
    (fits : instruction.Fits registers)
    (whole : instruction.Whole) :
    StandsFor instruction.written instruction := by
  cases instruction with
  | const4 target value =>
      obtain ⟨literal, narrow, -⟩ := fits
      have small : (value.toInt % 16).toNat * 16 + target.toNat < 256 := by omega
      have stands := StandsFor.const4 (opcodeOf_firstUnit small Opcode.const4)
      have isTarget :
          UInt8.ofNat ((UInt8.ofNat ((value.toInt % 16).toNat * 16 + target.toNat)).toNat % 16) =
            target := by
        apply UInt8.toNat_inj.mp
        rw [UInt8.toNat_ofNat', UInt8.toNat_ofNat']
        omega
      have isLiteral :
          (firstUnit ((value.toInt % 16).toNat * 16 + target.toNat) Opcode.const4).toNat / 4096 =
            (value.toInt % 16).toNat := by
        rw [toNat_firstUnit small]
        change (_ + 18) / 4096 = _
        omega
      rwa [highByte_firstUnit small, isTarget, isLiteral, literal4_of_fits literal] at stands
  | moveResultObject register =>
      have stands :=
        StandsFor.moveResultObject (opcodeOf_firstUnit register.toNat_lt Opcode.moveResultObject)
      rwa [highByte_register] at stands
  | returnValue register =>
      have stands := StandsFor.returnValue (opcodeOf_firstUnit register.toNat_lt Opcode.returnValue)
      rwa [highByte_register] at stands
  | returnObject register =>
      have stands :=
        StandsFor.returnObject (opcodeOf_firstUnit register.toNat_lt Opcode.returnObject)
      rwa [highByte_register] at stands
  | invokeStatic method arguments =>
      obtain ⟨few, inFrame, small⟩ := fits
      have narrow : ∀ argument ∈ arguments, argument.toNat < 16 := fun argument member =>
        (inFrame argument member).1
      have stands :=
        @StandsFor.invokeStatic _ method.toUInt16 (packedUnit arguments)
          (opcodeOf_invocationUnit few narrow) (by rwa [count_invocationUnit few narrow])
      rwa [count_invocationUnit few narrow, toUInt32_toUInt16 small,
        take_packedArguments_written few narrow] at stands
  | sgetObject register field =>
      have stands :=
        @StandsFor.sgetObject _ field.toUInt16
          (opcodeOf_firstUnit register.toNat_lt Opcode.sgetObject)
      rwa [highByte_register, toUInt32_toUInt16 fits.2] at stands
  | other units =>
      exact .other whole.2

/-- The units of an instruction are complete, whatever follows. -/
theorem declaredWidth?_written
    {registers : UInt16}
    {instruction : Instruction}
    (fits : instruction.Fits registers)
    (whole : instruction.Whole)
    (tail : List UInt16) :
    declaredWidth? (instruction.written ++ tail) = some instruction.written.length := by
  have ofOpcode {first : UInt16} {rest : List UInt16} {op : UInt8}
      (opcode : opcodeOf first = op) (isOther : op ≠ 0)
      (isWidth : (Opcode.format op).width = (first :: rest).length) :
      declaredWidth? (first :: rest ++ tail) = some (first :: rest).length := by
    rw [List.cons_append, declaredWidth?_of_not_payload (not_startsPayload opcode isOther), opcode,
      isWidth]
  have stands := standsFor_written fits whole
  revert stands
  generalize isUnits : instruction.written = units
  intro stands
  cases stands with
  | const4 opcode | moveResultObject opcode | returnValue opcode | returnObject opcode
  | sgetObject opcode =>
      exact ofOpcode opcode (by decide) rfl
  | invokeStatic opcode few =>
      exact ofOpcode opcode (by decide) rfl
  | other unstructured =>
      have declared := (width?_eq_some_iff.mp whole.1).1
      exact declaredWidth?_append (by rwa [List.append_nil]) tail

/-! ## What ends a listing, and what it passes on -/

/-- Control does not run out of the instruction: it is a return, a throw, a goto or a payload. -/
def EndsFlow : Instruction → Prop
  | .returnValue _ => True
  | .returnObject _ => True
  | .other units =>
    ∃ first ∈ units.head?, startsPayload first ∨ opcodeOf first ∈ Opcode.endings
  | _ => False

/-- The number of registers that the instruction passes on, as its first unit tells. -/
def passed? (instruction : Instruction) : Option UInt16 :=
  instruction.written.head?.bind argumentCount?

theorem isTerminal_iff_endsFlow {instruction : Instruction} :
    instruction.isTerminal = true ↔ instruction.EndsFlow := by
  cases instruction with
  | other units =>
      cases units with
      | nil =>
          simp [isTerminal, EndsFlow]
      | cons first rest =>
          rw [isTerminal, EndsFlow, Bool.or_eq_true, Opcode.isTerminal_iff]
          simp
  | _ => simp [isTerminal, EndsFlow]

/-- The first unit of an instruction tells how many registers the instruction passes on. -/
theorem outgoing_of_standsFor
    {units : List UInt16}
    {instruction : Instruction}
    (stands : StandsFor units instruction) :
    instruction.outgoing = ((units.head?.bind argumentCount?).getD 0).toNat := by
  cases stands with
  | const4 opcode | moveResultObject opcode | returnValue opcode | returnObject opcode
  | sgetObject opcode =>
      simp [outgoing, argumentCount?_eq_none opcode (by decide)]
  | @invokeStatic first method third opcode few =>
      have isCount : min (first.toNat / 4096) (packedArguments first third).length =
          first.toNat / 4096 :=
        Nat.min_eq_left few
      simp only [outgoing, List.head?_cons, Option.bind_some,
        argumentCount?_of_invokeStatic opcode, Option.getD_some, UInt16.toNat_ofNat',
        List.length_take, isCount]
      omega
  | other unstructured =>
      cases units <;> rfl

theorem outgoing_eq
    {registers : UInt16}
    {instruction : Instruction}
    (fits : instruction.Fits registers) :
    instruction.outgoing = (instruction.passed?.getD 0).toNat := by
  cases instruction with
  | other units =>
      cases units <;> rfl
  | _ => exact outgoing_of_standsFor (standsFor_written fits trivial)

end Instruction

namespace Listing

/-- The code of a listing whose operands fit. -/
def written (listing : Listing) : List UInt16 := listing.flatMap Instruction.written

theorem codeFrom_eq_ok_iff
    {registers : UInt16}
    {position : Nat}
    {listing : Listing}
    {code : List UInt16} :
    codeFrom registers position listing = .ok code ↔
      (∀ instruction ∈ listing, instruction.Fits registers) ∧ listing.written = code := by
  induction listing generalizing position code with
  | nil =>
      simp [codeFrom, written]
  | cons instruction rest inductionHypothesis =>
      rw [codeFrom, List.forall_mem_cons, written, List.flatMap_cons]
      simp only [bind_eq_ok_iff, Instruction.units_eq_ok_iff, inductionHypothesis]
      constructor
      · rintro ⟨_, ⟨fits, rfl⟩, _, ⟨others, rfl⟩, ⟨⟩⟩
        exact ⟨⟨fits, others⟩, rfl⟩
      · rintro ⟨⟨fits, others⟩, rfl⟩
        exact ⟨_, ⟨fits, rfl⟩, _, ⟨others, rfl⟩, rfl⟩

/-- A listing is assembled in three steps, of which each may fail. -/
theorem assemble_eq (listing : Listing) (body : Body) :
    listing.assemble body =
      listing.checkEnd >>= fun _ =>
        codeFrom body.registers 0 listing >>= fun code =>
          checkTries body code.length >>= fun _ =>
            .ok { body with outs := listing.outs, code } := by
  rw [assemble, checkEnd]
  cases listing.getLast? with
  | none =>
      rfl
  | some last =>
      cases terminal : last.isTerminal with
      | false =>
          simp [terminal]
          rfl
      | true =>
          simp only [terminal]
          change (codeFrom body.registers 0 listing >>= fun code => _) = _
          congr 1
          funext code
          rw [checkTries]
          cases overrunningTry? body code.length <;> rfl

/-- Assembling into a body that is held gives the body that assembling gives, and leaves the body as
it is where assembling fails. -/
theorem storeInto_eq (listing : Listing) (body : Body) :
    listing.storeInto body =
      match listing.assemble body with
      | .ok after => (.ok (), after)
      | .error reason => (.error reason, body) := by
  rw [assemble_eq, storeInto, store, run_ofExcept_bind]
  cases listing.checkEnd with
  | error reason =>
      rfl
  | ok _ =>
      change ((MonadExcept.ofExcept (codeFrom body.registers 0 listing) >>= _ :
        ExceptT AssemblyError (StateM Body) Unit).run.run body) = _
      rw [run_ofExcept_bind]
      cases codeFrom body.registers 0 listing with
      | error reason =>
          rfl
      | ok code =>
          change ((MonadExcept.ofExcept (checkTries body code.length) >>= _ :
            ExceptT AssemblyError (StateM Body) Unit).run.run body) = _
          rw [run_ofExcept_bind, bind_of_ok rfl, bind_of_ok rfl]
          cases checkTries body code.length <;> rfl

theorem checkEnd_eq_ok_iff {listing : Listing} :
    listing.checkEnd = .ok () ↔ ∃ last ∈ listing.getLast?, last.EndsFlow := by
  rw [checkEnd]
  cases listing.getLast? with
  | none =>
      simp
  | some last =>
      simp [← Instruction.isTerminal_iff_endsFlow]

theorem checkTries_eq_ok_iff
    {body : Body}
    {size : Nat} :
    checkTries body size = .ok () ↔
      ∀ range ∈ body.tries, range.start.toNat + range.length.toNat ≤ size := by
  have covered :
      overrunningTry? body size = none ↔
        ∀ range ∈ body.tries, range.start.toNat + range.length.toNat ≤ size := by
    simp [overrunningTry?]
  rw [checkTries, ← covered]
  cases overrunningTry? body size <;> simp

/-- What it takes to assemble a listing into a body. -/
structure Assembles (listing : Listing) (body : Body) : Prop where
  ends : ∃ last ∈ listing.getLast?, last.EndsFlow
  fits : ∀ instruction ∈ listing, instruction.Fits body.registers
  covered :
    ∀ range ∈ body.tries, range.start.toNat + range.length.toNat ≤ listing.written.length

/-- A listing is assembled exactly if everything fits, and then nothing changes but the code and the
count of registers that are passed on. -/
theorem assemble_eq_ok_iff
    {listing : Listing}
    {body after : Body} :
    listing.assemble body = .ok after ↔
      listing.Assembles body ∧
        { body with outs := listing.outs, code := listing.written } = after := by
  rw [assemble_eq, then_eq_ok_iff, checkEnd_eq_ok_iff]
  simp only [bind_eq_ok_iff, codeFrom_eq_ok_iff, Except.ok.injEq]
  constructor
  · rintro ⟨ends, _, ⟨fits, rfl⟩, _, covered, rfl⟩
    exact ⟨⟨ends, fits, checkTries_eq_ok_iff.mp covered⟩, rfl⟩
  · rintro ⟨⟨ends, fits, covered⟩, rfl⟩
    exact ⟨ends, _, ⟨fits, rfl⟩, (), checkTries_eq_ok_iff.mpr covered, rfl⟩

/-! ## The body that a listing is assembled into -/

/-- The body after a listing has been assembled into it. -/
structure Assembled (listing : Listing) (body after : Body) : Prop where
  others : after = { body with outs := after.outs, code := after.code }
  code : after.code = listing.written
  most : ∀ count ∈ listing.filterMap Instruction.passed?, count ≤ after.outs
  attained : after.outs = 0 ∨ after.outs ∈ listing.filterMap Instruction.passed?

/-- The count of registers of a listing is that of an instruction, and no other instruction passes
more on. -/
theorem outs_greatest
    {registers : UInt16}
    {listing : Listing}
    (fits : ∀ instruction ∈ listing, instruction.Fits registers) :
    (∀ count ∈ listing.filterMap Instruction.passed?, count ≤ listing.outs) ∧
      (listing.outs = 0 ∨ listing.outs ∈ listing.filterMap Instruction.passed?) := by
  have isMost : listing.outs = UInt16.ofNat ((listing.map Instruction.outgoing).max?.getD 0) := by
    rw [outs, List.foldl_max, Nat.zero_max]
  cases isMax : (listing.map Instruction.outgoing).max? with
  | none =>
      obtain rfl : listing = [] := by simpa using isMax
      exact ⟨by simp, .inl rfl⟩
  | some most =>
      -- The greatest count is that of an instruction, and so no number is cut off to fit a unit.
      obtain ⟨member, bound⟩ := List.max?_eq_some_iff.mp isMax
      obtain ⟨largest, isLargest, isOutgoing⟩ := List.mem_map.mp member
      rw [Instruction.outgoing_eq (fits largest isLargest)] at isOutgoing
      have isOuts : listing.outs = largest.passed?.getD 0 := by
        rw [isMost, isMax, ← isOutgoing, Option.getD_some, UInt16.ofNat_toNat]
      constructor
      · intro count isCount
        obtain ⟨instruction, isInstruction, passes⟩ := List.mem_filterMap.mp isCount
        have outgoing := Instruction.outgoing_eq (fits instruction isInstruction)
        rw [passes, Option.getD_some] at outgoing
        rw [isOuts, UInt16.le_iff_toNat_le, isOutgoing, ← outgoing]
        exact bound _ (List.mem_map_of_mem isInstruction)
      · cases passes : largest.passed? with
        | none =>
            rw [passes] at isOuts
            exact .inl isOuts
        | some count =>
            rw [passes, Option.getD_some] at isOuts
            exact .inr (List.mem_filterMap.mpr ⟨largest, isLargest, isOuts ▸ passes⟩)

/-- The code of a listing of whole instructions has its boundaries where their units end. -/
theorem cut_written
    {registers : UInt16}
    {listing : Listing}
    (fits : ∀ instruction ∈ listing, instruction.Fits registers)
    (whole : ∀ instruction ∈ listing, instruction.Whole) :
    Cut listing.written (listing.map Instruction.written) [] := by
  induction listing with
  | nil =>
      exact .done rfl
  | cons instruction rest inductionHypothesis =>
      rw [List.forall_mem_cons] at fits whole
      rw [written, List.flatMap_cons]
      exact .step (Instruction.declaredWidth?_written fits.1 whole.1 _)
        (inductionHypothesis fits.2 whole.2)

/-- A body that a listing of whole instructions has been assembled into reads as that listing. -/
theorem ofBody_of_written
    {registers : UInt16}
    {listing : Listing}
    {body : Body}
    (fits : ∀ instruction ∈ listing, instruction.Fits registers)
    (whole : ∀ instruction ∈ listing, instruction.Whole)
    (isCode : body.code = listing.written) :
    ofBody body = .ok listing := by
  rw [ofBody_eq_ok_iff, isCode, (cut_written fits whole).split_eq, List.map_map]
  refine ⟨rfl, (List.map_congr_left fun instruction member => ?_).trans (List.map_id listing)⟩
  exact (Instruction.standsFor_written (fits instruction member)
    (whole instruction member)).ofUnits_eq

/-- Assembling into a body that is held is all or nothing.  It succeeds exactly if everything fits,
and then changes the code and the count of registers that are passed on, which is the greatest of
any instruction; otherwise the body stays as it is.  A listing of whole instructions is read back as
it was. -/
theorem store_all_or_nothing (listing : Listing) (body : Body) :
    (∀ after, listing.storeInto body = (.ok (), after) ↔ listing.assemble body = .ok after) ∧
      ((∃ after, listing.storeInto body = (.ok (), after)) ↔ listing.Assembles body) ∧
      (∀ reason after, listing.storeInto body = (.error reason, after) → after = body) ∧
      ∀ after, listing.storeInto body = (.ok (), after) →
        listing.Assembled body after ∧
          ((∀ instruction ∈ listing, instruction.Whole) → ofBody after = .ok listing) := by
  have stored (after : Body) :
      listing.storeInto body = (.ok (), after) ↔ listing.assemble body = .ok after := by
    rw [storeInto_eq]
    cases listing.assemble body <;> simp
  refine ⟨stored, ?_, fun reason after fails => ?_, fun after succeeds => ?_⟩
  · simp only [stored, assemble_eq_ok_iff, exists_and_left, exists_eq', and_true]
  · rw [storeInto_eq] at fails
    split at fails
    · cases fails
    · cases fails
      rfl
  · obtain ⟨assembles, rfl⟩ := assemble_eq_ok_iff.mp ((stored after).mp succeeds)
    obtain ⟨most, attained⟩ := outs_greatest assembles.fits
    exact ⟨⟨rfl, rfl, most, attained⟩, fun whole => ofBody_of_written assembles.fits whole rfl⟩

end Listing

end DexPatch
