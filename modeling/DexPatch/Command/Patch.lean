import DexPatch.Archive.Patch
import DexPatch.Patch.Spec
import DexPatch.Patch.Tables

namespace DexPatch

/-!
# The patch command

The requests are collected first, then the input is read, patched and, if
anything was patched, written to the output.  Each step that fails ends the
command, and only the last one changes a file.
-/

/-- What the patch command is to do. -/
structure Invocation where
  input : String
  output : String
  spec : Option String
  jar : Option String
  tables : Option String
  form : EmptyListForm
deriving DecidableEq, Repr, Inhabited

/-- What the patch command misses in its arguments. -/
inductive MissingArgument where
  | requests
  | jar
deriving DecidableEq, Repr

def MissingArgument.message : MissingArgument → String
  | .requests => "a patch spec or --jar is required"
  | .jar => "--tables needs --jar to pick a table"

/-- Why the patch command fails. -/
inductive CommandError where
  | missingArgument (missing : MissingArgument)
  | inputNotRegular (path : String)
  | inputUnreadable (path : String) (cause : FileError)
  | malformedSpec (reason : SpecError)
  | tables (reason : TablesError)
  | patch (reason : PatchError)
  | archive (reason : ArchiveError)
  | outputUnwritable (path : String) (cause : FileError)
deriving DecidableEq, Repr

namespace CommandError

def message : CommandError → String
  | .missingArgument missing => "invalid arguments: " ++ missing.message
  | .inputNotRegular path => path ++ " is not a regular file"
  | .inputUnreadable path cause => "cannot read " ++ path ++ ": " ++ cause.message
  | .malformedSpec reason => "malformed patch spec: " ++ reason.message
  | .tables reason => reason.message
  | .patch reason => reason.message
  | .archive reason => reason.message
  | .outputUnwritable path cause => "cannot write " ++ path ++ ": " ++ cause.message

end CommandError

/-- How the patch command ended. -/
structure Summary where
  requests : Nat
  patched : Nat
  written : Bool
deriving DecidableEq, Repr

/-- The outcomes that the patch command reports, with the name of the entry in an archive, and how
it ended. -/
structure Report where
  reported : List (Option String × Outcome)
  result : Except CommandError Summary
deriving Repr

namespace Invocation

/-- Is there something to take requests from, and an archive name for the tables? -/
def checkArguments (invocation : Invocation) : Except CommandError Unit :=
  if invocation.spec.isNone ∧ invocation.jar.isNone then
    .error (.missingArgument .requests)
  else if invocation.tables.isSome ∧ invocation.jar.isNone then
    .error (.missingArgument .jar)
  else
    .ok ()

/-- The requests of the spec. -/
def specRequests (invocation : Invocation) : Except CommandError (List Request) :=
  match invocation.spec with
  | none => .ok []
  | some text => (Spec.parse text).mapError .malformedSpec

section

variable {m : Type → Type} [Monad m] [Files m]

/-- The tables to look the archive up in. -/
def loadTables (invocation : Invocation) : m (Except TablesError PatchTables) :=
  match invocation.tables with
  | none => return .ok .builtIn
  | some path => PatchTables.load path

/-- The requests of the table for the archive. -/
def tableRequests (invocation : Invocation) : ExceptT CommandError m (List Request) :=
  match invocation.jar with
  | none => return []
  | some jar => do
    let tables ← ExceptT.mk (Except.mapError .tables <$> invocation.loadTables)
    ExceptT.mk (return (tables.requestsFor jar).mapError .tables)

/-- All requests: those of the spec, and then those of the table. -/
def collectRequests (invocation : Invocation) : ExceptT CommandError m (List Request) := do
  ExceptT.mk (return invocation.checkArguments)
  let requests ← ExceptT.mk (return invocation.specRequests)
  return requests ++ (← invocation.tableRequests)

/-- The content of the input, which has to be a file. -/
def readInput (invocation : Invocation) : ExceptT CommandError m Bytes := do
  let unreadable := CommandError.inputUnreadable invocation.input
  let regular ← ExceptT.mk (Except.mapError unreadable <$> Files.isRegular invocation.input)
  if !regular then
    throw (.inputNotRegular invocation.input)
  ExceptT.mk (Except.mapError unreadable <$> Files.read invocation.input)

/-- The requests and the content of the input. -/
def prepare (invocation : Invocation) : ExceptT CommandError m (List Request × Bytes) := do
  let requests ← invocation.collectRequests
  let input ← invocation.readInput
  return (requests, input)

/-- Gives the output its content. -/
def writeOutput (invocation : Invocation) (content : Bytes) : m (Except CommandError Unit) := do
  return (← Files.write invocation.output content).mapError
    (.outputUnwritable invocation.output)

end

end Invocation

/-- What patching some bytes reports and gives. -/
structure Patching where
  reported : List (Option String × Outcome)
  /-- The new bytes, none if nothing was patched. -/
  output : Except CommandError (Option Bytes)

/-- Patches an archive or an image. -/
def Patching.ofInput (form : EmptyListForm) (input : Bytes) (requests : List Request) :
    Patching :=
  if Archive.isArchive input then
    let run := Archive.patchBytes form input requests
    { reported := run.outcomes.map fun (entry, outcome) => (some entry, outcome)
      output := (run.output.bind (·.mapM Archive.write)).mapError .archive }
  else
    let run := Run.ofImage form input requests
    { reported := run.outcomes.map fun outcome => (none, outcome)
      output := run.output.mapError .patch }

/-- Runs the patch command. -/
def Invocation.execute {m : Type → Type} [Monad m] [Files m] (invocation : Invocation) :
    m Report := do
  match ← invocation.prepare.run with
  | .error reason => return { reported := [], result := .error reason }
  | .ok (requests, input) =>
    let patching := Patching.ofInput invocation.form input requests
    let reported := patching.reported
    let summary : Summary :=
      { requests := requests.length
        patched := reported.countP (·.2.isPatched)
        written := false }
    match patching.output with
    | .error reason => return { reported, result := .error reason }
    | .ok none => return { reported, result := .ok summary }
    | .ok (some content) =>
      match ← invocation.writeOutput content with
      | .error reason => return { reported, result := .error reason }
      | .ok () => return { reported, result := .ok { summary with written := true } }

end DexPatch
