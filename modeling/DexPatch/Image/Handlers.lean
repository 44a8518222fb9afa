import DexPatch.Container.Basic
import DexPatch.Leb128

namespace DexPatch

/-!
# The list of catch handlers

The handlers of a body are written one behind the other after their count, and
a try range names its handler by the offset into this list.
-/

/-- The signed number in front of a handler: the count of its catches, negated if a catch-all
address follows them. -/
def CatchHandler.countNumber (handler : CatchHandler) : Int32 :=
  let count := Int32.ofInt handler.catches.length
  if handler.catchAll.isSome then -count else count

/-- The written form of a handler. -/
def CatchHandler.bytes (handler : CatchHandler) : List UInt8 :=
  Leb128.signed handler.countNumber ++
    (handler.catches.flatMap fun (type, address) =>
      Leb128.unsigned type ++ Leb128.unsigned address) ++
    match handler.catchAll with
    | some address => Leb128.unsigned address
    | none => []

/-- A list of handlers. -/
structure HandlerList where
  bytes : List UInt8
  /-- The offset of each handler. -/
  offsets : List Nat
deriving Repr

namespace HandlerList

/-- The offsets at which pieces start that are written one behind the other. -/
def startsFrom : (offset : Nat) → List (List UInt8) → List Nat
  | _, [] => []
  | offset, piece :: rest => offset :: startsFrom (offset + piece.length) rest

/-- The written form of a list of handlers. -/
def ofHandlers (handlers : List CatchHandler) : HandlerList :=
  let count := Leb128.unsigned (UInt32.ofNat handlers.length)
  let pieces := handlers.map CatchHandler.bytes
  { bytes := count ++ pieces.flatten
    offsets := startsFrom count.length pieces }

end HandlerList

end DexPatch
