import DexPatch.Files.Basic
import DexPatch.Json.Reader
import DexPatch.Json.Writer
import DexPatch.Patch.Request
import DexPatch.Text.Blank
import DexPatch.Text.Utf8

namespace DexPatch

open Text

/-!
# Patch tables

A table lists the requests for a framework archive.  Tables are kept in JSON;
a request there may leave its qualifiers out, or give `null` for them.
-/

/-- The requests for the archive of a name. -/
structure PatchTable where
  jarName : String
  requests : List Request
deriving DecidableEq, Repr, Inhabited

/-- Tables, the first of which counts where two have the same name. -/
structure PatchTables where
  tables : List PatchTable
deriving DecidableEq, Repr, Inhabited

/-- Why there are no tables, or none for an archive. -/
inductive TablesError where
  | unreadable (path : String) (cause : FileError)
  | malformed
  | unknownJar (name : String)
  | emptyMethodName (jar : String)
deriving DecidableEq, Repr

def TablesError.message : TablesError → String
  | .unreadable path cause => s!"cannot read patch tables from {path}: {cause.message}"
  | .malformed => "malformed patch tables"
  | .unknownJar name => s!"no patch table for jar {quoted name}"
  | .emptyMethodName jar => s!"patch table {quoted jar} has an entry without a method name"

namespace Behavior

/-- A behavior in JSON: its name, or an object that gives nothing under its name. -/
def ofJson? : Json.Value → Option Behavior
  | .object [(key, .null)] => (Json.textOfUnits? key).bind ofName?
  | value => value.text?.bind ofName?

end Behavior

namespace Request

/-- The fields of a request. -/
def fieldNames : List String := ["method_name", "declaring_type", "parameter_types", "behavior"]

/-- A field that may be left out or be `null`. -/
def optionalField? {α : Type} (read : Json.Value → Option α) :
    Option Json.Value → Option (Option α)
  | none => some none
  | some .null => some none
  | some value => (read value).map some

/-- A list of texts. -/
def texts? (value : Json.Value) : Option (List String) := do
  let items ← value.items?
  items.mapM (·.text?)

/-- A request in JSON. -/
def ofJson? (value : Json.Value) : Option Request :=
  match value.fields? fieldNames with
  | some [some methodName, declaringType, parameterTypes, some behavior] => do
    let methodName ← methodName.text?
    let declaringType ← optionalField? Json.Value.text? declaringType
    let parameterTypes ← optionalField? texts? parameterTypes
    let behavior ← Behavior.ofJson? behavior
    return { methodName, declaringType, parameterTypes, behavior }
  | _ => none

/-- The JSON of a request, without the fields that are absent. -/
def toJson (request : Request) : Json.Value :=
  .record <|
    ("method_name", .ofText request.methodName) ::
      (request.declaringType.toList.map fun descriptor => ("declaring_type", .ofText descriptor)) ++
      (request.parameterTypes.toList.map fun descriptors =>
        ("parameter_types", .array (descriptors.map .ofText))) ++
      [("behavior", .ofText request.behavior.name)]

/-- Is the method name nothing but blanks? -/
def isNameless (request : Request) : Bool := request.methodName.toList.all isBlank

end Request

namespace PatchTable

/-- A table in JSON. -/
def ofJson? (value : Json.Value) : Option PatchTable :=
  match value.fields? ["jar_name", "methods"] with
  | some [some jarName, some requests] => do
    let jarName ← jarName.text?
    let requests ← requests.items?
    let requests ← requests.mapM Request.ofJson?
    return { jarName, requests }
  | _ => none

/-- The JSON of a table. -/
def toJson (table : PatchTable) : Json.Value :=
  .record [("jar_name", .ofText table.jarName),
    ("methods", .array (table.requests.map Request.toJson))]

end PatchTable

/-- The last part of a path that is a name: neither empty nor the directory itself nor the one
above it. -/
def fileName? (path : String) : Option String :=
  let parts := (splitAt '/' path.toList).filter fun part => !part.isEmpty && part != ['.']
  match parts.getLast? with
  | none => none
  | some part => if part = ['.', '.'] then none else some (String.ofList part)

namespace PatchTables

/-- Tables in JSON. -/
def ofJson? (value : Json.Value) : Option PatchTables :=
  match value.fields? ["tables"] with
  | some [some tables] => do
    let tables ← tables.items?
    let tables ← tables.mapM PatchTable.ofJson?
    return { tables }
  | _ => none

/-- The JSON of tables. -/
def toJson (tables : PatchTables) : Json.Value :=
  .record [("tables", .array (tables.tables.map PatchTable.toJson))]

/-- The text of tables. -/
def render (tables : PatchTables) : String := tables.toJson.render

/-- The tables of a text.  Every request in them must name a method. -/
def parse (text : String) : Except TablesError PatchTables :=
  match (Json.parse? text).bind ofJson? with
  | none => .error .malformed
  | some tables =>
    match tables.tables.find? fun table => table.requests.any (·.isNameless) with
    | some table => .error (.emptyMethodName table.jarName)
    | none => .ok tables

/-- The tables of the content of a file. -/
def ofBytes (path : String) (content : Bytes) : Except TablesError PatchTables :=
  match utf8? content.toList with
  | some text => parse text
  | none => .error (.unreadable path .notText)

/-- The tables of a file. -/
def load {m : Type → Type} [Monad m] [Files m] (path : String) :
    m (Except TablesError PatchTables) := do
  match ← Files.read path with
  | .ok content => return ofBytes path content
  | .error cause => return .error (.unreadable path cause)

/-- The requests for an archive, which may be given with a path. -/
def requestsFor (tables : PatchTables) (jar : String) : Except TablesError (List Request) :=
  match tables.tables.find? (·.jarName == (fileName? jar).getD jar) with
  | some table => .ok table.requests
  | none => .error (.unknownJar jar)

/-- The tables used where none are given. -/
def builtIn : PatchTables :=
  { tables :=
      [{ jarName := "services.jar"
         requests :=
           [.unqualified "isSecureLocked" .constantFalse,
             { methodName := "notifyScreenshotListeners", declaringType := none
               parameterTypes := some ["I"], behavior := .emptyList },
             .unqualified "isAllowAudioPlaybackCapture" .constantTrue] },
        { jarName := "semwifi-service.jar"
          requests := [.unqualified "isSecureLocked" .constantFalse] },
        { jarName := "miui-services.jar"
          requests := [.unqualified "notAllowCaptureDisplay" .constantFalse] }] }

end PatchTables

end DexPatch
