import DexPatch.Command.Tool

namespace DexPatch

/-!
# The program

Runs a tool over the files of the machine.  The program is the dump tool
where its own name ends in `-dump`, and the patch tool otherwise.
-/

/-- The reason behind an error of the system. -/
def fileErrorOf : IO.Error → FileError
  | .noFileOrDirectory _ _ _ => .notFound
  | .inappropriateType _ code _ => if code = 21 then .isDirectory else .notDirectory
  | .invalidArgument _ code details => if code = 36 then .nameTooLong else .other details
  | .permissionDenied _ _ _ => .other "Permission denied (os error 13)"
  | error => .other (toString error)

/-- The result of an operation on files, or the reason why there is none. -/
def attempt {α : Type} (operation : IO α) : IO (Except FileError α) := do
  try
    return .ok (← operation)
  catch error =>
    return .error (fileErrorOf error)

/-- Is there a file of the machine with the name, and no directory?  Where this cannot be told,
reading tells why. -/
def isRegularFile (name : String) : IO (Except FileError Bool) := do
  match ← attempt (do return (← (← IO.FS.realPath name).metadata).type == .file) with
  | .ok regular => return .ok regular
  | .error _ => attempt (do let _ ← IO.FS.readBinFile name; return true)

instance : Files IO where
  isRegular := isRegularFile
  read name := attempt (do return (← IO.FS.readBinFile name).data)
  write name content := attempt (IO.FS.writeBinFile name ⟨content⟩)

/-- The tool that the program is. -/
def currentTool : IO Tool := do
  let name := (← IO.appPath).fileStem.getD ""
  return if name.endsWith "-dump" then .dump else .patch

end DexPatch

/-- Runs the tool that the program is, and ends with its status. -/
def main (commandLine : List String) : IO UInt32 := do
  let finished ← (← DexPatch.currentTool).run commandLine
  (← IO.getStdout).putStr finished.output
  (← IO.getStderr).putStr finished.errors
  return finished.status.toUInt32
