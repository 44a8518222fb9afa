namespace DexPatch

/-!
# The opcode table

The low byte of an instruction's first code unit is its opcode.  It fixes the
format, and with it the number of code units, and the pool that the operand at
the second unit points into.  Nothing else about an opcode matters here.
-/

/-- Instruction formats: a count of units, a count of registers and a letter for the rest. -/
inductive Format where
  | f10x | f12x | f11n | f11x | f10t | f20t | f22x | f21t | f21s | f21h | f21c | f23x | f22b
  | f22t | f22s | f22c | f32x | f30t | f31t | f31i | f31c | f35c | f3rc | f45cc | f4rcc | f51l
deriving DecidableEq, Repr

namespace Format

/-- The usual name of a format. -/
def name : Format → String
  | .f10x => "10x" | .f12x => "12x" | .f11n => "11n" | .f11x => "11x" | .f10t => "10t"
  | .f20t => "20t" | .f22x => "22x" | .f21t => "21t" | .f21s => "21s" | .f21h => "21h"
  | .f21c => "21c" | .f23x => "23x" | .f22b => "22b" | .f22t => "22t" | .f22s => "22s"
  | .f22c => "22c" | .f32x => "32x" | .f30t => "30t" | .f31t => "31t" | .f31i => "31i"
  | .f31c => "31c" | .f35c => "35c" | .f3rc => "3rc" | .f45cc => "45cc" | .f4rcc => "4rcc"
  | .f51l => "51l"

/-- The number of code units of an instruction. -/
def width : Format → Nat
  | .f10x | .f12x | .f11n | .f11x | .f10t => 1
  | .f20t | .f22x | .f21t | .f21s | .f21h | .f21c | .f23x | .f22b | .f22t | .f22s | .f22c => 2
  | .f32x | .f30t | .f31t | .f31i | .f31c | .f35c | .f3rc => 3
  | .f45cc | .f4rcc => 4
  | .f51l => 5

end Format

/-- What the operand at the second unit of an instruction points into. -/
inductive IndexKind where
  | none
  | string
  | type
  | field
  | method
  /-- A method at the second unit and a prototype at the fourth. -/
  | methodAndProto
  | proto
  | callSite
  | methodHandle
deriving DecidableEq, Repr

namespace Opcode

/-- Ranges of opcodes with one format, ascending and without gaps. -/
def formatRows : List (Nat × Format) :=
  [(0x00, .f10x), (0x01, .f12x), (0x02, .f22x), (0x03, .f32x), (0x04, .f12x), (0x05, .f22x),
    (0x06, .f32x), (0x07, .f12x), (0x08, .f22x), (0x09, .f32x), (0x0d, .f11x), (0x0e, .f10x),
    (0x11, .f11x), (0x12, .f11n), (0x13, .f21s), (0x14, .f31i), (0x15, .f21h), (0x16, .f21s),
    (0x17, .f31i), (0x18, .f51l), (0x19, .f21h), (0x1a, .f21c), (0x1b, .f31c), (0x1c, .f21c),
    (0x1e, .f11x), (0x1f, .f21c), (0x20, .f22c), (0x21, .f12x), (0x22, .f21c), (0x23, .f22c),
    (0x24, .f35c), (0x25, .f3rc), (0x26, .f31t), (0x27, .f11x), (0x28, .f10t), (0x29, .f20t),
    (0x2a, .f30t), (0x2c, .f31t), (0x31, .f23x), (0x37, .f22t), (0x3d, .f21t), (0x43, .f10x),
    (0x51, .f23x), (0x5f, .f22c), (0x6d, .f21c), (0x72, .f35c), (0x73, .f10x), (0x78, .f3rc),
    (0x7a, .f10x), (0x8f, .f12x), (0xaf, .f23x), (0xcf, .f12x), (0xd7, .f22s), (0xe2, .f22b),
    (0xf9, .f10x), (0xfa, .f45cc), (0xfb, .f4rcc), (0xfc, .f35c), (0xfd, .f3rc), (0xff, .f21c)]

/-- The format of an opcode: that of the first row which reaches it. -/
def format (op : UInt8) : Format :=
  match formatRows.find? fun (last, _) => op.toNat ≤ last with
  | some (_, format) => format
  | none => .f10x

/-- What an opcode's operand points into. -/
def indexKind (op : UInt8) : IndexKind :=
  let n := op.toNat
  if n = 0x1a ∨ n = 0x1b then .string
  else if n = 0x1c ∨ n = 0x1f ∨ n = 0x20 ∨ (0x22 ≤ n ∧ n ≤ 0x25) then .type
  else if 0x52 ≤ n ∧ n ≤ 0x6d then .field
  else if (0x6e ≤ n ∧ n ≤ 0x72) ∨ (0x74 ≤ n ∧ n ≤ 0x78) then .method
  else if n = 0xfa ∨ n = 0xfb then .methodAndProto
  else if n = 0xfc ∨ n = 0xfd then .callSite
  else if n = 0xfe then .methodHandle
  else if n = 0xff then .proto
  else .none

def const4 : UInt8 := 0x12
def moveResultObject : UInt8 := 0x0c
def returnValue : UInt8 := 0x0f
def returnObject : UInt8 := 0x11
def sgetObject : UInt8 := 0x62
def invokeStatic : UInt8 := 0x71
def constStringJumbo : UInt8 := 0x1b

/-- Does control never pass to the instruction behind: a return, a throw or a goto? -/
def isTerminal (op : UInt8) : Bool :=
  let n := op.toNat
  (0x0e ≤ n && n ≤ 0x11) || (0x27 ≤ n && n ≤ 0x2a)

end Opcode

/-- The opcode in a first code unit. -/
def opcodeOf (unit : UInt16) : UInt8 := UInt8.ofNat (unit.toNat % 256)

/-- The byte beside the opcode in a first code unit. -/
def highByte (unit : UInt16) : UInt8 := UInt8.ofNat (unit.toNat / 256)

/-- Does the unit start data rather than an instruction: no-operation's opcode with the other
byte in use? -/
def startsPayload (unit : UInt16) : Bool := unit.toNat % 256 == 0 && unit.toNat / 256 != 0

/-- The number of argument registers that an invoking instruction passes, counted in its first
unit; nothing for other instructions. -/
def argumentCount? (unit : UInt16) : Option UInt16 :=
  let op := unit.toNat % 256
  if op = 0x24 ∨ (0x6e ≤ op ∧ op ≤ 0x72) ∨ op = 0xfa ∨ op = 0xfc then
    some (UInt16.ofNat (unit.toNat / 4096))
  else if op = 0x25 ∨ (0x74 ≤ op ∧ op ≤ 0x78) ∨ op = 0xfb ∨ op = 0xfd then
    some (UInt16.ofNat (unit.toNat / 256))
  else
    none

end DexPatch
