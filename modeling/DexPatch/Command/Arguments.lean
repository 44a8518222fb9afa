import DexPatch.Command.Patch

namespace DexPatch

/-!
# Command-line arguments

Arguments are read from left to right.  Options start with a dash; `--` ends
them, and a dash by itself is none.  The first argument that cannot stand
where it does makes the command line wrong, unless the version has been asked
for before.
-/

/-- What an argument is for. -/
inductive Argument where
  | operand (text : String)
  | flag (name : String)
  | setting (name value : String)
  /-- Nothing that the command knows. -/
  | unknown
deriving DecidableEq, Repr

/-- What a command line asks for. -/
inductive Asked (α : Type) where
  | run (command : α)
  | version
  | help
  | refused
deriving DecidableEq, Repr

/-- The options of a command: names that stand alone, names that take a value, and one-letter names
of the former. -/
structure OptionNames where
  flags : List String
  settings : List String
  letters : List (Char × String)

/-- Does the argument start an option? -/
def startsOption (argument : List Char) : Bool :=
  match argument with
  | '-' :: _ :: _ => true
  | _ => false

namespace OptionNames

/-- The flag of a letter. -/
def ofLetter (names : OptionNames) (letter : Char) : Argument :=
  match names.letters.lookup letter with
  | some name => .flag name
  | none => .unknown

/-- A long option with its value, if it has one of its own. -/
def ofLong (names : OptionNames) (option : List Char) : Argument :=
  match Text.cutAt '=' option with
  | none => if names.flags.contains (String.ofList option) then .flag (String.ofList option) else .unknown
  | some (name, value) =>
    if names.settings.contains (String.ofList name) then
      .setting (String.ofList name) (String.ofList value)
    else
      .unknown

/-- What the arguments are for.  A setting without a value of its own takes the next argument,
which must not start an option. -/
def arguments (names : OptionNames) : List String → List Argument
  | [] => []
  | argument :: rest =>
    match argument.toList with
    | ['-', '-'] => rest.map .operand
    | '-' :: '-' :: option =>
      if names.settings.contains (String.ofList option) then
        match rest with
        | [] => [.unknown]
        | value :: rest =>
          if startsOption value.toList then
            [.unknown]
          else
            .setting (String.ofList option) value :: arguments names rest
      else
        names.ofLong option :: arguments names rest
    | '-' :: letter :: letters =>
      (letter :: letters).map names.ofLetter ++ arguments names rest
    | _ => .operand argument :: arguments names rest

end OptionNames

/-! ## The patch command -/

/-- The options of the patch command. -/
def patchOptions : OptionNames :=
  { flags := ["verbose", "version", "help"]
    settings := ["jar", "tables", "empty-list-form"]
    letters := [('v', "verbose"), ('V', "version"), ('h', "help")] }

/-- The arguments of the patch command that have been read. -/
structure PatchArguments where
  operands : List String
  jar : Option String
  tables : Option String
  form : Option EmptyListForm
deriving DecidableEq, Repr

namespace PatchArguments

/-- With one more operand: the input, the output and the spec, the first two of which are no empty
names. -/
def addOperand? (arguments : PatchArguments) (text : String) : Option PatchArguments :=
  let position := arguments.operands.length
  if position < 2 ∧ text = "" ∨ 3 ≤ position then
    none
  else
    some { arguments with operands := arguments.operands ++ [text] }

/-- With one more setting, which must not be there already. -/
def addSetting? (arguments : PatchArguments) (name value : String) : Option PatchArguments :=
  if name = "jar" ∧ arguments.jar.isNone then
    some { arguments with jar := some value }
  else if name = "tables" ∧ arguments.tables.isNone ∧ value ≠ "" then
    some { arguments with tables := some value }
  else if name = "empty-list-form" ∧ arguments.form.isNone then
    (EmptyListForm.ofName? value).map fun form => { arguments with form := some form }
  else
    none

/-- The invocation, if nothing is missing. -/
def invocation? (arguments : PatchArguments) : Option Invocation :=
  if arguments.tables.isSome ∧ arguments.jar.isNone then
    none
  else
    match arguments.operands with
    | input :: output :: spec =>
      some { input, output, spec := spec.head?, jar := arguments.jar, tables := arguments.tables
             form := arguments.form.getD .invoke }
    | _ => none

/-- What the arguments ask for behind those that have been read. -/
def asked (read : PatchArguments) : List Argument → Asked Invocation
  | [] =>
    match read.invocation? with
    | some invocation => .run invocation
    | none => .refused
  | .operand text :: rest =>
    match read.addOperand? text with
    | some read => read.asked rest
    | none => .refused
  | .setting name value :: rest =>
    match read.addSetting? name value with
    | some read => read.asked rest
    | none => .refused
  | .flag name :: rest =>
    if name = "version" then .version else if name = "help" then .help else read.asked rest
  | .unknown :: _ => .refused

end PatchArguments

/-- What a command line of the patch command asks for. -/
def askedOfPatch (commandLine : List String) : Asked Invocation :=
  PatchArguments.asked { operands := [], jar := none, tables := none, form := none }
    (patchOptions.arguments commandLine)

/-! ## The dump command -/

/-- The options of the dump command. -/
def dumpOptions : OptionNames :=
  { flags := ["all", "version", "help"]
    settings := []
    letters := [('V', "version"), ('h', "help")] }

/-- The arguments of the dump command. -/
structure DumpArguments where
  input : Option String
  all : Bool
deriving DecidableEq, Repr

namespace DumpArguments

/-- What the arguments ask for behind those that have been read. -/
def asked (read : DumpArguments) : List Argument → Asked (String × Bool)
  | [] =>
    match read.input with
    | some input => .run (input, read.all)
    | none => .refused
  | .operand text :: rest =>
    if read.input.isSome ∨ text = "" then .refused else asked { read with input := some text } rest
  | .setting _ _ :: _ => .refused
  | .flag name :: rest =>
    if name = "version" then .version
    else if name = "help" then .help
    else if read.all then .refused
    else asked { read with all := true } rest
  | .unknown :: _ => .refused

end DumpArguments

/-- What a command line of the dump command asks for: the input, and whether to list all. -/
def askedOfDump (commandLine : List String) : Asked (String × Bool) :=
  DumpArguments.asked { input := none, all := false } (dumpOptions.arguments commandLine)

end DexPatch
