import DexPatch.Container.Basic
import DexPatch.Instruction.Stream

namespace DexPatch

/-!
# Instruction listings

A listing is a body's code as instructions.  The few instructions that patches
are made of have a structure; all others keep their code units.  Assembling a
listing checks that every operand fits and that control cannot run off the
end, and then replaces the code of a body.
-/

/-- An instruction, or a payload, of a listing. -/
inductive Instruction where
  | const4 (target : UInt8) (value : Int8)
  | moveResultObject (target : UInt8)
  | returnValue (source : UInt8)
  | returnObject (source : UInt8)
  | invokeStatic (method : UInt32) (arguments : List UInt8)
  | sgetObject (target : UInt8) (field : UInt32)
  | other (units : List UInt16)
deriving DecidableEq, Repr, Inhabited

namespace Instruction

/-- A first unit from an opcode and the byte beside it. -/
def firstUnit (high : Nat) (op : UInt8) : UInt16 := UInt16.ofNat (high * 256 + op.toNat)

/-- A signed four-bit literal. -/
def literal4 (nibble : Nat) : Int8 :=
  Int8.ofInt (if nibble < 8 then (nibble : Int) else (nibble : Int) - 16)

/-- The registers of an invocation: four in the third unit, a fifth in the first. -/
def packedArguments (first third : UInt16) : List UInt8 :=
  [UInt8.ofNat (third.toNat % 16), UInt8.ofNat (third.toNat / 16 % 16),
    UInt8.ofNat (third.toNat / 256 % 16), UInt8.ofNat (third.toNat / 4096),
    UInt8.ofNat (first.toNat / 256 % 16)]

/-- The instruction with the given code units. -/
def ofUnits (units : List UInt16) : Instruction :=
  match units with
  | [] => .other []
  | first :: rest =>
    let op := opcodeOf first
    let high := highByte first
    if op = Opcode.const4 then
      .const4 (UInt8.ofNat (high.toNat % 16)) (literal4 (first.toNat / 4096))
    else if op = Opcode.moveResultObject then .moveResultObject high
    else if op = Opcode.returnValue then .returnValue high
    else if op = Opcode.returnObject then .returnObject high
    else if op = Opcode.invokeStatic then
      match rest with
      | method :: packed :: _ =>
        let count := first.toNat / 4096
        if count ≤ 5 then
          .invokeStatic method.toUInt32 ((packedArguments first packed).take count)
        else
          .other units
      | _ => .other units
    else if op = Opcode.sgetObject then
      match rest with
      | field :: _ => .sgetObject high field.toUInt32
      | [] => .other units
    else
      .other units

/-- A register that fits an operand of some bits and lies in the frame. -/
def checkedRegister (registers : UInt16) (bits : Nat) (register : UInt8) :
    Except AssemblyError Nat :=
  if 1 <<< bits ≤ register.toNat then
    .error (.operandTooWide .register register.toNat bits)
  else if registers.toNat ≤ register.toNat then
    .error (.registerOutOfFrame register registers)
  else
    .ok register.toNat

/-- A pool number that fits a 16-bit operand. -/
def checkedIndex (index : UInt32) : Except AssemblyError UInt16 :=
  if index.toNat < 65536 then .ok index.toUInt16 else .error (.indexTooWide index)

/-- The code units of an instruction, in a frame of some registers and at a position of the
code. -/
def units (registers : UInt16) (position : Nat) : Instruction → Except AssemblyError (List UInt16)
  | .const4 target value => do
    if value.toInt < -8 ∨ 7 < value.toInt then
      throw (.operandTooWide .literal value.toInt 4)
    let target ← checkedRegister registers 4 target
    return [firstUnit ((value.toInt % 16).toNat * 16 + target) Opcode.const4]
  | .moveResultObject target => do
    return [firstUnit (← checkedRegister registers 8 target) Opcode.moveResultObject]
  | .returnValue source => do
    return [firstUnit (← checkedRegister registers 8 source) Opcode.returnValue]
  | .returnObject source => do
    return [firstUnit (← checkedRegister registers 8 source) Opcode.returnObject]
  | .invokeStatic method arguments => do
    if 5 < arguments.length then
      throw (.operandTooWide .argumentCount arguments.length 4)
    let slots ← arguments.mapM (checkedRegister registers 4)
    let slot (n : Nat) : Nat := slots[n]?.getD 0
    let method ← checkedIndex method
    return [firstUnit (arguments.length * 16 + slot 4) Opcode.invokeStatic, method,
      UInt16.ofNat (slot 0 + slot 1 * 16 + slot 2 * 256 + slot 3 * 4096)]
  | .sgetObject target field => do
    let target ← checkedRegister registers 8 target
    let field ← checkedIndex field
    return [firstUnit target Opcode.sgetObject, field]
  | .other units => if units.isEmpty then throw (.malformedBody position) else return units

/-- Does control never pass to the instruction behind?  Data counts, since none runs into it. -/
def isTerminal : Instruction → Bool
  | .returnValue _ => true
  | .returnObject _ => true
  | .other (first :: _) => startsPayload first || Opcode.isTerminal (opcodeOf first)
  | _ => false

/-- The number of registers that the instruction passes on. -/
def outgoing : Instruction → Nat
  | .invokeStatic _ arguments => arguments.length
  | .other (first :: _) => ((argumentCount? first).getD 0).toNat
  | _ => 0

end Instruction

/-- The instructions of a body, in order. -/
abbrev Listing := List Instruction

namespace Listing

/-- The listing of a body, if its code is complete. -/
def ofBody (body : Body) : Except AssemblyError Listing :=
  let parts := split body.code
  match parts.fault? with
  | some unit => .error (.malformedBody unit)
  | none => .ok (parts.instructions.map Instruction.ofUnits)

/-- The listing with an instruction put before a position, which may be the end. -/
def insert? (listing : Listing) (position : Nat) (instruction : Instruction) : Option Listing :=
  if position ≤ listing.length then
    some (listing.take position ++ instruction :: listing.drop position)
  else
    none

/-- The instruction at a position, and the listing without it. -/
def remove? (listing : Listing) (position : Nat) : Option (Instruction × Listing) :=
  listing[position]?.map fun instruction => (instruction, listing.eraseIdx position)

/-- The code of a listing that starts at a position. -/
def codeFrom (registers : UInt16) : (position : Nat) → Listing → Except AssemblyError (List UInt16)
  | _, [] => .ok []
  | position, instruction :: rest => do
    let units ← instruction.units registers position
    let code ← codeFrom registers (position + units.length) rest
    return units ++ code

/-- The first try range of a body that reaches beyond so many code units. -/
def overrunningTry? (body : Body) (size : Nat) : Option TryRange :=
  body.tries.find? fun range => size < range.start.toNat + range.length.toNat

/-- The most registers that one instruction passes on. -/
def outs (listing : Listing) : UInt16 :=
  UInt16.ofNat ((listing.map Instruction.outgoing).foldl max 0)

/-- The body with the listing as its code.  The frame and the try ranges stay, and must fit. -/
def assemble (listing : Listing) (body : Body) : Except AssemblyError Body := do
  match listing.getLast? with
  | none => throw .empty
  | some last => if !last.isTerminal then throw .fallsOffEnd
  let code ← codeFrom body.registers 0 listing
  match overrunningTry? body code.length with
  | some range => throw (.malformedBody range.start.toNat)
  | none => return { body with outs := listing.outs, code }

end Listing

end DexPatch
