import DexPatch.Image.Reader
import DexPatch.Image.Writer
import DexPatch.Patch.Locate
import DexPatch.Patch.Replacement

namespace DexPatch

/-!
# Patch runs

A run reads an image, applies requests one after the other, each to what the
ones before have left, and writes an image again if any of them was patched.
-/

/-- Why a run gives no result. -/
inductive PatchError where
  | decode (reason : DecodeError)
  | encode (reason : EncodeError)
deriving DecidableEq, Repr

def PatchError.message : PatchError → String
  | .decode reason => "failed to decode dex: " ++ reason.message
  | .encode reason => "failed to encode dex: " ++ reason.message

namespace Container

/-- The container after a request, and how applying it ended. -/
def applyRequest (form : EmptyListForm) (container : Container) (request : Request) :
    Outcome × Container :=
  let outcome (status : Status) : Outcome := { methodName := request.methodName, status }
  match request.target? container with
  | none => (outcome .notFound, container)
  | some record =>
    match container.replaceBody record.key request.behavior form with
    | (.ok (), container) => (outcome (.patched record.signature), container)
    | (.error reason, container) => (outcome (.assemblyFailed reason), container)

/-- The container after all requests, and how applying each ended. -/
def applyRequests (form : EmptyListForm) (container : Container) :
    List Request → List Outcome × Container
  | [] => ([], container)
  | request :: rest =>
    let (outcome, container) := container.applyRequest form request
    let (outcomes, container) := applyRequests form container rest
    (outcome :: outcomes, container)

end Container

/-- Was any body replaced? -/
def anyPatched (outcomes : List Outcome) : Bool := outcomes.any (·.isPatched)

/-- A run over an image: the outcomes it reports, and what it gives in the end. -/
structure Run where
  outcomes : List Outcome
  /-- The new image, none if nothing was patched. -/
  output : Except PatchError (Option Bytes)
deriving Repr

/-- The image of a container to which the requests with these outcomes have been applied. -/
def patchedImage (container : Container) (outcomes : List Outcome) :
    Except PatchError (Option Bytes) :=
  if anyPatched outcomes then
    match container.encode with
    | .ok image => .ok (some image)
    | .error reason => .error (.encode reason)
  else
    .ok none

/-- Applies requests to an image. -/
def Run.ofImage (form : EmptyListForm) (image : Bytes) (requests : List Request) : Run :=
  match Container.decode image with
  | .error reason => { outcomes := [], output := .error (.decode reason) }
  | .ok container =>
    let (outcomes, container) := container.applyRequests form requests
    { outcomes, output := patchedImage container outcomes }

end DexPatch
