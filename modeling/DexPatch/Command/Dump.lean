import DexPatch.Archive.Patch
import DexPatch.Container.Records
import DexPatch.Files.Basic
import DexPatch.Image.Reader
import DexPatch.Patch.Request
import DexPatch.Text.Numeral

namespace DexPatch

/-!
# The dump command

Lists the methods of an image, or of every image in an archive, each with the
behaviors that fit it.  Methods that none fits are left out unless all are
asked for.
-/

namespace MethodRecord

/-- The behaviors that fit the method: it has a body and their return type. -/
def fittingBehaviors (record : MethodRecord) : List Behavior :=
  if record.hasBody then Behavior.all.filter (·.returnType == record.returnType) else []

/-- The frame of the method in a listing. -/
def frameText (record : MethodRecord) : String :=
  match record.body with
  | none => "no body"
  | some body =>
    s!"regs={body.registers.toNat} ins={body.ins.toNat} units={body.code.length}"

/-- The line of the method in a listing. -/
def dumpLine (record : MethodRecord) : String :=
  let access := "0x" ++ Text.hexPadded 4 record.access.toNat
  let behaviors := String.intercalate "," (record.fittingBehaviors.map Behavior.name)
  String.intercalate " " [access, record.signature, record.frameText, behaviors]

end MethodRecord

namespace Container

/-- The methods that a listing shows. -/
def dumped (container : Container) (all : Bool) : List MethodRecord :=
  container.records.filter fun record => all || !record.fittingBehaviors.isEmpty

/-- The listing of a container. -/
def dump (container : Container) (all : Bool) : List String :=
  let shown := container.dumped all
  shown.map MethodRecord.dumpLine ++ [s!"{shown.length} of {container.records.length} methods"]

end Container

/-- Why the dump command fails. -/
inductive DumpError where
  | inputUnreadable (path : String) (cause : FileError)
  | image (reason : DecodeError)
  | archive (reason : ArchiveError)
  | entry (name : String) (reason : DecodeError)
deriving DecidableEq, Repr

/-- The lines that the dump command prints, and why it ends before the last, if it does. -/
structure Dump where
  lines : List String
  failure : Option DumpError
deriving Repr

namespace Dump

/-- The listing of an image. -/
def ofImage (all : Bool) (image : Bytes) : Dump :=
  match Container.decode image with
  | .ok container => { lines := container.dump all, failure := none }
  | .error reason => { lines := [], failure := some (.image reason) }

/-- The listings of images, each behind its name; the first that cannot be read ends them. -/
def ofImages (all : Bool) : List (Entry × Bytes) → Dump
  | [] => { lines := [], failure := none }
  | (entry, image) :: rest =>
    match Container.decode image with
    | .error reason => { lines := [entry.name], failure := some (.entry entry.name reason) }
    | .ok container =>
      let others := ofImages all rest
      { others with lines := entry.name :: container.dump all ++ others.lines }

/-- The listing of an archive or an image. -/
def ofInput (all : Bool) (input : Bytes) : Dump :=
  if Archive.isArchive input then
    match (Archive.read input).bind Archive.images with
    | .ok images => ofImages all images
    | .error reason => { lines := [], failure := some (.archive reason) }
  else
    ofImage all input

/-- Runs the dump command. -/
def execute {m : Type → Type} [Monad m] [Files m] (path : String) (all : Bool) : m Dump := do
  match ← Files.read path with
  | .ok input => return ofInput all input
  | .error cause => return { lines := [], failure := some (.inputUnreadable path cause) }

end Dump

end DexPatch
