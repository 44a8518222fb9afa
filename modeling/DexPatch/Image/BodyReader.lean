import DexPatch.Container.Basic
import DexPatch.Image.Cursor

namespace DexPatch

/-!
# Reading method bodies and debug information
-/

/-- Reads the operands of a debug step. -/
def readDebugOp (data : Bytes) (opcode : UInt8) : Cursor DebugOp := do
  match opcode.toNat with
  | 0x01 => return .advancePc (← Cursor.unsigned data)
  | 0x02 => return .advanceLine (← Cursor.signed data)
  | 0x03 =>
    let register ← Cursor.unsigned data
    let name ← Cursor.optional data
    return .startLocal register name (← Cursor.optional data)
  | 0x04 =>
    let register ← Cursor.unsigned data
    let name ← Cursor.optional data
    let type ← Cursor.optional data
    return .startLocalExtended register name type (← Cursor.optional data)
  | 0x05 => return .endLocal (← Cursor.unsigned data)
  | 0x06 => return .restartLocal (← Cursor.unsigned data)
  | 0x07 => return .prologueEnd
  | 0x08 => return .epilogueBegin
  | 0x09 => return .setFile (← Cursor.optional data)
  | _ => return .special opcode

/-- Reads debug steps up to the zero byte behind them, given a bound on their number; those read
before come last first.  Each step takes a byte, so the bytes that are left are such a bound. -/
def debugOpsWithin (data : Bytes) : (budget : Nat) → (done : List DebugOp) → Cursor (List DebugOp)
  | 0, _ => fun position => .error (.unexpectedEnd (position + 1))
  | budget + 1, done => do
    let opcode ← Cursor.byte data
    if opcode = 0 then
      return done.reverse
    else
      let op ← readDebugOp data opcode
      debugOpsWithin data budget (op :: done)

/-- Reads debug steps up to the zero byte behind them. -/
def readDebugOps (data : Bytes) : Cursor (List DebugOp) := fun position =>
  debugOpsWithin data (data.size - position) [] position

/-- Reads debug information. -/
def readDebugInfo (data : Bytes) : Cursor DebugInfo := do
  let lineStart ← Cursor.unsigned data
  let count ← Cursor.unsigned data
  let parameterNames ← Cursor.times count.toNat (Cursor.optional data)
  return { lineStart, parameterNames, ops := ← readDebugOps data }

/-- Reads one address and the type it is for. -/
def readCatch (data : Bytes) : Cursor (UInt32 × UInt32) := do
  let type ← Cursor.unsigned data
  return (type, ← Cursor.unsigned data)

/-- Reads a handler. -/
def readHandler (data : Bytes) : Cursor CatchHandler := do
  let count ← Cursor.signed data
  let catches ← Cursor.times count.toInt.natAbs (readCatch data)
  if count.toInt ≤ 0 then
    return { catches, catchAll := some (← Cursor.unsigned data) }
  else
    return { catches, catchAll := none }

/-- Reads a list of handlers, each with the position at which it starts. -/
def readHandlers (data : Bytes) : Cursor (List (Nat × CatchHandler)) := do
  let count ← Cursor.unsigned data
  Cursor.times count.toNat do
    let start ← get
    return (start, ← readHandler data)

/-- The try range at an offset; it names its handler by an offset into the handler list. -/
def tryAt (data : Bytes) (handlerOffsets : List Nat) (offset : Nat) :
    Except DecodeError TryRange := do
  let handlerOffset ← u16At data (offset + 6)
  match handlerOffsets.findIdx? (· == handlerOffset.toNat) with
  | none => throw (.malformed .tryHandlerOffset offset)
  | some handler =>
    let start ← u32At data offset
    return { start, length := ← u16At data (offset + 4), handler }

/-- The try ranges and handlers of a body at an offset. -/
def triesAt (data : Bytes) (offset count : Nat) :
    Except DecodeError (List TryRange × List CatchHandler) := do
  let listAt := offset + count * 8
  let handlers ← (readHandlers data).readAt listAt
  let tries ← collect count fun i =>
    tryAt data (handlers.map fun (start, _) => start - listAt) (offset + i * 8)
  return (tries, handlers.map (·.2))

/-- The code units in some bytes. -/
def unitsOf : List UInt8 → List UInt16
  | low :: high :: rest => UInt16.ofNat (low.toNat + high.toNat * 256) :: unitsOf rest
  | _ => []

/-- The body at an offset. -/
def bodyAt (data : Bytes) (offset : Nat) : Except DecodeError Body := do
  let registers ← u16At data offset
  let ins ← u16At data (offset + 2)
  let outs ← u16At data (offset + 4)
  let tryCount := (← u16At data (offset + 6)).toNat
  let debugAt ← natAt data (offset + 8)
  let size ← natAt data (offset + 12)
  let codeAt := offset + 16
  let code := unitsOf (← bytesAt data codeAt (size * 2))
  let (tries, handlers) ←
    if tryCount = 0 then
      pure ([], [])
    else
      triesAt data (codeAt + size * 2 + size % 2 * 2) tryCount
  let debug ← if debugAt = 0 then pure none else some <$> (readDebugInfo data).readAt debugAt
  return { registers, ins, outs, debug, code, tries, handlers }

end DexPatch
