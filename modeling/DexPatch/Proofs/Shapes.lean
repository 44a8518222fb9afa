import Mathlib.Tactic.MkIffOfInductiveProp
import DexPatch.Image.Reader
import DexPatch.Image.Writer

namespace DexPatch

/-!
# The shape of what is read

Some containers that can be built are read from no image: a special step of
debug information never has the opcode of another step, a handler catches
something, and a body has handlers only if it has ranges for them to guard.
A shaped container has none of these faults, and the version of one that can
be read.
-/

/-! ## Numbers that are listed

A condition on all numbers that are listed somewhere is checked for these.  Without the instances
below it would be checked for every number of 32 bits. -/

section Listed

variable (condition : UInt32 → Prop) [DecidablePred condition]

instance (priority := high) decidableForallMemList (numbers : List UInt32) :
    Decidable (∀ number ∈ numbers, condition number) :=
  List.decidableBAll condition numbers

instance (priority := high) decidableForallMemArray (numbers : Array UInt32) :
    Decidable (∀ number ∈ numbers, condition number) :=
  decidable_of_iff (∀ number ∈ numbers.toList, condition number)
    (by simp only [Array.mem_toList_iff])

instance (priority := high) decidableForallMemOption (number? : Option UInt32) :
    Decidable (∀ number ∈ number?, condition number) :=
  Option.decidableForallMem number?

end Listed

/-! ## Shapes -/

/-- No opcode below 0x0a is that of a special step. -/
def DebugOp.Shaped : DebugOp → Prop
  | .special opcode => 0x0a ≤ opcode.toNat
  | _ => True

instance : DecidablePred DebugOp.Shaped
  | .special opcode => inferInstanceAs (Decidable (0x0a ≤ opcode.toNat))
  | .advancePc _ | .advanceLine _ | .startLocal .. | .startLocalExtended .. | .endLocal _
  | .restartLocal _ | .prologueEnd | .epilogueBegin | .setFile _ => instDecidableTrue

/-- A handler without types to catch catches all. -/
def CatchHandler.Shaped (handler : CatchHandler) : Prop :=
  handler.catches = [] → handler.catchAll.isSome

instance (handler : CatchHandler) : Decidable handler.Shaped :=
  inferInstanceAs (Decidable (_ → _))

/-- A body as an image can hold it. -/
@[mk_iff]
structure Body.Shaped (body : Body) : Prop where
  steps : ∀ debug ∈ body.debug, ∀ op ∈ debug.ops, op.Shaped
  fewTries : body.tries.length < 65536
  handlers : ∀ handler ∈ body.handlers, handler.Shaped
  unguarded : body.tries = [] → body.handlers = []

instance (body : Body) : Decidable body.Shaped := decidable_of_iff _ (Body.shaped_iff body).symm

/-- A hidden-API section is not empty and starts with its own length, as far as it has room
for it. -/
def ShapedHiddenApi (blob : Bytes) : Prop :=
  0 < blob.size ∧ blob.toList.take 4 = (le32 blob.size).take blob.size

/-- A container as an image can hold it, its references and its hidden-API section apart. -/
@[mk_iff]
structure Container.Shaped (container : Container) : Prop where
  version : container.version.isSupported
  strings : ∀ string ∈ container.strings, 0 ∉ string.data
  bodies :
    ∀ classDef ∈ container.classes, ∀ method ∈ classDef.allMethods,
      ∀ body ∈ method.body, body.Shaped

instance (container : Container) : Decidable container.Shaped :=
  decidable_of_iff _ (Container.shaped_iff container).symm

end DexPatch
