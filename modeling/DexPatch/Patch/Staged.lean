import DexPatch.Instruction.InPlace
import DexPatch.Patch.Replacement

namespace DexPatch

/-!
# Replacing a body step by step

The container is held while a body of it is replaced.  The method is looked up
twice, since interning comes in between, and its old instructions are read
only to be dropped.  The new body is assembled apart and put in the place of
the old one at the end.
-/

/-- The listing without its instructions. -/
def Listing.clear (_ : Listing) : Listing := []

/-- The listing with one more instruction. -/
def Listing.push (listing : Listing) (instruction : Instruction) : Listing :=
  listing ++ [instruction]

/-- What can be read of a body: nothing if its code is not complete. -/
def Listing.readable (body : Body) : Listing :=
  match ofBody body with
  | .ok listing => listing
  | .error _ => []

namespace Container

/-- The instructions of a behavior.  What they refer to is interned in the container that is
held. -/
def internCanned (behavior : Behavior) (form : EmptyListForm) :
    ExceptT AssemblyError (StateM Container) Listing := do
  let (listing, grown) := (← get).canned behavior form
  set grown
  return listing

/-- Replaces the body at a key in the container that is held. -/
def install (key : MethodKey) (behavior : Behavior) (form : EmptyListForm) :
    ExceptT AssemblyError (StateM Container) Unit := do
  let ins ← MonadExcept.ofExcept ((← get).growableIns key)
  let sequence ← internCanned behavior form
  match (← get).body? key with
  | none => throw .missingMethod
  | some old =>
    let listing := sequence.foldl Listing.push (Listing.readable old).clear
    let (assembled, staged) := listing.storeInto
      { registers := ins + 1, ins, outs := 0, code := [], tries := [], handlers := []
        debug := none }
    MonadExcept.ofExcept assembled
    modify fun container => container.setBody key (some staged)

/-- What replacing a body ends with, and the container that is held then. -/
def installInto (container : Container) (key : MethodKey) (behavior : Behavior)
    (form : EmptyListForm) : Except AssemblyError Unit × Container :=
  (install key behavior form).run.run container

end Container

end DexPatch
