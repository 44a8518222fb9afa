import DexPatch.Instruction.Stream

namespace DexPatch

/-!
# Pool operands of instructions

An instruction refers to a pool by a 16-bit operand at its second unit; the
jumbo string constant has 32 bits there, and a polymorphic invocation a second
operand at its fourth unit.  Payloads refer to nothing.
-/

/-- A pool number that is to be written somewhere. -/
structure Reference where
  pool : Pool
  index : UInt32
  /-- Are there only 16 bits for the number? -/
  short : Bool
deriving DecidableEq, Repr

/-- The number in two code units, the low one first. -/
def wideIndex (low high : UInt16) : UInt32 := UInt32.ofNat (low.toNat + high.toNat * 65536)

/-- The pool of an instruction's first operand. -/
def IndexKind.pool? : IndexKind → Option Pool
  | .none => .none
  | .string => some .string
  | .type => some .type
  | .field => some .field
  | .method => some .method
  | .methodAndProto => some .method
  | .proto => some .proto
  | .callSite => some .callSite
  | .methodHandle => some .methodHandle

/-- What an instruction's opcode says about its operand; a payload has none. -/
def operandKind (first : UInt16) : IndexKind :=
  if startsPayload first then .none else Opcode.indexKind (opcodeOf first)

/-- The pool operands of one instruction, in order. -/
def poolOperands (instruction : List UInt16) : List Reference :=
  match instruction with
  | first :: second :: rest =>
    match (operandKind first).pool? with
    | none => []
    | some pool =>
      if opcodeOf first = Opcode.constStringJumbo then
        match rest with
        | third :: _ => [{ pool, index := wideIndex second third, short := false }]
        | [] => []
      else
        let operand : Reference := { pool, index := second.toUInt32, short := true }
        match operandKind first, rest with
        | .methodAndProto, _ :: fourth :: _ =>
          [operand, { pool := .proto, index := fourth.toUInt32, short := true }]
        | _, _ => [operand]
  | _ => []

/-- One instruction with its pool operands renumbered. -/
def mapPoolOperands (renumber : Pool → UInt32 → UInt32) (instruction : List UInt16) :
    List UInt16 :=
  match instruction with
  | first :: second :: rest =>
    match (operandKind first).pool? with
    | none => instruction
    | some pool =>
      if opcodeOf first = Opcode.constStringJumbo then
        match rest with
        | third :: rest =>
          let index := (renumber pool (wideIndex second third)).toNat
          first :: UInt16.ofNat index :: UInt16.ofNat (index / 65536) :: rest
        | [] => instruction
      else
        let operand := (renumber pool second.toUInt32).toUInt16
        match operandKind first, rest with
        | .methodAndProto, third :: fourth :: rest =>
          first :: operand :: third :: (renumber .proto fourth.toUInt32).toUInt16 :: rest
        | _, rest => first :: operand :: rest
  | _ => instruction

/-- Code with the pool operands of all its instructions renumbered. -/
def mapCodeOperands (renumber : Pool → UInt32 → UInt32) (code : List UInt16) : List UInt16 :=
  let parts := split code
  (parts.instructions.map (mapPoolOperands renumber)).flatten ++ parts.rest

end DexPatch
