import DexPatch.Command.Dump
import DexPatch.Command.Patch

namespace DexPatch

/-!
# Errors and what is behind them

On the command line an error is shown with the errors behind it, from the one
that the command met to the first cause.
-/

/-- What is behind an error of a run. -/
def PatchError.causes : PatchError → List String
  | .decode reason => [reason.message]
  | .encode reason => [reason.message]

/-- What is behind an error of an archive. -/
def ArchiveError.causes : ArchiveError → List String
  | .container fault => [fault.message]
  | .content fault => [fault.message]
  | .entry _ reason => reason.message :: reason.causes

/-- What is behind an error of tables. -/
def TablesError.causes : TablesError → List String
  | .unreadable _ cause => [cause.message]
  | .malformed => []
  | .unknownJar _ => []
  | .emptyMethodName _ => []

/-- What is behind an error of the patch command. -/
def CommandError.causes : CommandError → List String
  | .missingArgument _ => []
  | .inputNotRegular _ => []
  | .inputUnreadable _ cause => [cause.message]
  | .malformedSpec reason => [reason.message]
  | .tables reason => reason.causes
  | .patch reason => reason.causes
  | .archive reason => reason.causes
  | .outputUnwritable _ cause => [cause.message]

/-- An error of the patch command in one line. -/
def CommandError.text (error : CommandError) : String :=
  String.intercalate ": " (error.message :: error.causes)

namespace DumpError

def message : DumpError → String
  | .inputUnreadable path _ => "cannot read " ++ path
  | .image reason => reason.message
  | .archive reason => reason.message
  | .entry name _ => name

/-- What is behind an error of the dump command. -/
def causes : DumpError → List String
  | .inputUnreadable _ cause => [cause.message]
  | .image _ => []
  | .archive reason => reason.causes
  | .entry _ reason => [reason.message]

/-- The paragraph of causes, numbered if there is more than one. -/
def causesText : List String → String
  | [] => ""
  | [cause] => "\n\nCaused by:\n    " ++ cause
  | causes =>
    "\n\nCaused by:" ++
      String.join (causes.zipIdx.map fun (cause, number) => s!"\n    {number}: {cause}")

/-- An error of the dump command with a paragraph for its causes. -/
def text (error : DumpError) : String := error.message ++ causesText error.causes

end DumpError

end DexPatch
