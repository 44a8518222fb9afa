import DexPatch.Text.Quoted

namespace DexPatch

open Text

/-!
# What can be wrong with a container

Reading an image, writing one and assembling a method body each fail for a
reason of their own type.  A reason carries what its message tells, and the
message is one function of it.
-/

/-- A numbered list that other parts of a container refer to. -/
inductive Pool where
  | string
  | type
  | proto
  | field
  | method
  | callSite
  | methodHandle
  | methodHandleTarget
  | catchHandler
deriving DecidableEq, Repr

/-- The name of a pool in messages. -/
def Pool.label : Pool → String
  | .string => "string"
  | .type => "type"
  | .proto => "proto"
  | .field => "field"
  | .method => "method"
  | .callSite => "call site"
  | .methodHandle => "method handle"
  | .methodHandleTarget => "method handle target"
  | .catchHandler => "catch handler"

/-- A part of an image whose bytes can contradict its format. -/
inductive Part where
  | headerSize
  | unsignedNumber
  | signedNumber
  | stringData
  | tryHandlerOffset
  | valueIndex
  | valueType
deriving DecidableEq, Repr

/-- The name of a part in messages. -/
def Part.label : Part → String
  | .headerSize => "header size"
  | .unsignedNumber => "uleb128"
  | .signedNumber => "sleb128"
  | .stringData => "string_data_item"
  | .tryHandlerOffset => "try_item handler offset"
  | .valueIndex => "encoded_value index"
  | .valueType => "encoded_value type"

/-- Why bytes are no readable image. -/
inductive DecodeError where
  | badMagic
  | unsupportedVersion (version : String)
  | badEndianTag (tag : UInt32)
  | unexpectedEnd (offset : Nat)
  | malformed (part : Part) (offset : Nat)
  | indexOutOfRange (pool : Pool) (index : UInt32)
deriving DecidableEq, Repr

def DecodeError.message : DecodeError → String
  | .badMagic => "not a dex file (bad magic)"
  | .unsupportedVersion version => s!"unsupported dex version {quoted version}"
  | .badEndianTag tag => s!"unsupported endian tag 0x{hexPadded 8 tag.toNat}"
  | .unexpectedEnd offset => s!"unexpected end of data at offset {hexLiteral offset}"
  | .malformed part offset => s!"malformed {part.label} at offset {hexLiteral offset}"
  | .indexOutOfRange pool index => s!"{pool.label} index {index.toNat} out of range"

/-- Why a container has no image. -/
inductive EncodeError where
  | danglingIndex (pool : Pool) (index : UInt32)
  | indexOverflow (pool : Pool) (index : UInt32)
  | malformedCode (unit : Nat)
  | handlerOffsetOverflow (size : Nat)
deriving DecidableEq, Repr

def EncodeError.message : EncodeError → String
  | .danglingIndex pool index => s!"{pool.label} index {index.toNat} does not exist"
  | .indexOverflow pool index =>
    s!"{pool.label} index {index.toNat} does not fit a 16-bit operand"
  | .malformedCode unit => s!"malformed instruction stream at code unit {unit}"
  | .handlerOffsetOverflow size => s!"catch handler list of {size} bytes exceeds 16-bit offsets"

/-- An operand of a structured instruction that has a width of its own. -/
inductive Operand where
  | register
  | literal
  | argumentCount
deriving DecidableEq, Repr

/-- The name of an operand in messages. -/
def Operand.label : Operand → String
  | .register => "register"
  | .literal => "literal"
  | .argumentCount => "argument count"

/-- Why an instruction listing makes no method body. -/
inductive AssemblyError where
  | empty
  | registerOutOfFrame (register : UInt8) (registers : UInt16)
  | operandTooWide (operand : Operand) (value : Int) (bits : Nat)
  | indexTooWide (index : UInt32)
  | fallsOffEnd
  | malformedBody (unit : Nat)
  | noBody
  | missingMethod
  | frameOverflow (ins : UInt16)
deriving DecidableEq, Repr

def AssemblyError.message : AssemblyError → String
  | .empty => "instruction list is empty"
  | .registerOutOfFrame register registers =>
    s!"register v{register.toNat} is outside a frame of {registers.toNat} registers"
  | .operandTooWide operand value bits => s!"{operand.label} {value} does not fit in {bits} bits"
  | .indexTooWide index => s!"pool index {index.toNat} does not fit a 16-bit operand"
  | .fallsOffEnd => "execution falls off the end of the method"
  | .malformedBody unit => s!"malformed method body at code unit {unit}"
  | .noBody => "method has no body"
  | .missingMethod => "method is no longer present in the container"
  | .frameOverflow ins => s!"register frame of {ins.toNat} argument registers cannot grow"

end DexPatch
