import DexPatch.Command.Arguments
import DexPatch.Command.Causes

namespace DexPatch

/-!
# The two tools

A tool is a command with its command line: what it prints, what it prints as
errors, and its exit status.
-/

inductive Tool where
  | patch
  | dump
deriving DecidableEq, Repr

/-- What a tool has printed when it ends, and its status. -/
structure Finished where
  status : UInt8
  output : String
  errors : String
deriving DecidableEq, Repr

namespace Tool

/-- The version that both tools give. -/
def versionText : String := "paccer 0.1.0\n"

/-- How the tool is called. -/
def usage : Tool → String
  | .patch =>
    "Usage: paccer [OPTIONS] <INPUT> <OUTPUT> [SPEC]\n\nOptions:\n" ++
      "  --jar <JAR>\n  --tables <TABLES>\n  --empty-list-form <EMPTY_LIST_FORM>\n" ++
      "  -v, --verbose\n  -h, --help\n  -V, --version\n"
  | .dump => "Usage: paccer-dump [OPTIONS] <INPUT>\n\nOptions:\n  --all\n  -h, --help\n  -V, --version\n"

/-- The status of a tool that is called wrongly. -/
def refusedStatus : Tool → UInt8
  | .patch => 1
  | .dump => 2

/-- Lines, each with its end. -/
def lines (texts : List String) : String := String.join (texts.map (· ++ "\n"))

/-- How a tool ends: with an error or without one. -/
def finish (output : List String) (error : Option String) : Finished :=
  match error with
  | none => { status := 0, output := lines output, errors := "" }
  | some text => { status := 1, output := lines output, errors := lines ["Error: " ++ text] }

/-- The line of a reported outcome. -/
def reportLine (entry : Option String) (outcome : Outcome) : String :=
  match entry with
  | some name => name ++ ": " ++ outcome.line
  | none => outcome.line

/-- How the patch tool ends with a report. -/
def finishPatch (report : Report) : Finished :=
  finish (report.reported.map fun (entry, outcome) => reportLine entry outcome) <|
    match report.result with
    | .ok _ => none
    | .error reason => some reason.text

/-- How the dump tool ends with a listing. -/
def finishDump (dump : Dump) : Finished := finish dump.lines (dump.failure.map DumpError.text)

/-- Runs what a command line asks for. -/
def answer {m : Type → Type} [Monad m] {α : Type} (tool : Tool) (run : α → m Finished) :
    Asked α → m Finished
  | .run command => run command
  | .version => return { status := 0, output := versionText, errors := "" }
  | .help => return { status := 0, output := tool.usage, errors := "" }
  | .refused => return { status := tool.refusedStatus, output := "", errors := tool.usage }

/-- Runs a tool. -/
def run {m : Type → Type} [Monad m] [Files m] (tool : Tool) (commandLine : List String) :
    m Finished :=
  match tool with
  | .patch =>
    tool.answer (fun invocation : Invocation => finishPatch <$> invocation.execute)
      (askedOfPatch commandLine)
  | .dump =>
    tool.answer (fun (path, all) => finishDump <$> Dump.execute path all)
      (askedOfDump commandLine)

end Tool

end DexPatch
