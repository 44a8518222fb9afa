import DexPatch.Container.Intern
import DexPatch.Container.Records
import DexPatch.Instruction.Listing
import DexPatch.Patch.Request

namespace DexPatch.Container

/-!
# Replacing a body

A new body is a short listing that returns a value from the lowest register.
Arguments are passed in the highest registers of a frame, so one register
more than there are arguments leaves the lowest one free.
-/

/-- The class whose method or field gives the empty list. -/
def listSource : String := "Ljava/util/Collections;"

/-- The instructions of a behavior, and the container with what they refer to. -/
def canned (container : Container) (behavior : Behavior) (form : EmptyListForm) :
    Listing × Container :=
  match behavior, form with
  | .constantFalse, _ => ([.const4 0 0, .returnValue 0], container)
  | .constantTrue, _ => ([.const4 0 1, .returnValue 0], container)
  | .emptyList, .invoke =>
    let (method, container) :=
      container.internMethod listSource "emptyList" Behavior.listType []
    ([.invokeStatic method [], .moveResultObject 0, .returnObject 0], container)
  | .emptyList, .field =>
    let (field, container) := container.internField listSource "EMPTY_LIST" Behavior.listType
    ([.sgetObject 0 field, .returnObject 0], container)

/-- The number of argument registers of the method at a key, if its frame can be one larger. -/
def growableIns (container : Container) (key : MethodKey) : Except AssemblyError UInt16 :=
  match container.method? key with
  | none => .error .missingMethod
  | some method =>
    match method.body with
    | none => .error .noBody
    | some body =>
      if body.ins.toNat < 65535 then .ok body.ins else .error (.frameOverflow body.ins)

/-- The body that runs a listing in a frame of one register more than the arguments take. -/
def freshBody (ins : UInt16) (listing : Listing) : Except AssemblyError Body :=
  Listing.assemble listing
    { registers := ins + 1, ins, outs := 0, code := [], tries := [], handlers := []
      debug := none }

/-- The container with the body at a key replaced.  What the new body refers to stays interned
even where no body could be made. -/
def replaceBody (container : Container) (key : MethodKey) (behavior : Behavior)
    (form : EmptyListForm) : Except AssemblyError Unit × Container :=
  match container.growableIns key with
  | .error reason => (.error reason, container)
  | .ok ins =>
    let (listing, container) := container.canned behavior form
    match freshBody ins listing with
    | .error reason => (.error reason, container)
    | .ok body => (.ok (), container.setBody key (some body))

end DexPatch.Container
