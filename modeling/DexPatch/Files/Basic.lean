import DexPatch.Bytes

namespace DexPatch

/-!
# Files

The commands look at files by name, read them whole and write them whole.
What they ask of a file system is a class, so that the same commands run over
the files of a machine and over a tree of files in memory.
-/

/-- Why a file cannot be read or written. -/
inductive FileError where
  | notFound
  | notDirectory
  | isDirectory
  | nameTooLong
  /-- No name holds the character of number zero. -/
  | zeroInName
  | notText
  /-- A reason that only the system knows to name. -/
  | other (message : String)
deriving DecidableEq, Repr

def FileError.message : FileError → String
  | .notFound => "No such file or directory (os error 2)"
  | .notDirectory => "Not a directory (os error 20)"
  | .isDirectory => "Is a directory (os error 21)"
  | .nameTooLong => "File name too long (os error 36)"
  | .zeroInName => "file name contained an unexpected NUL byte"
  | .notText => "stream did not contain valid UTF-8"
  | .other message => message

/-- The operations on files that the commands use. -/
class Files (m : Type → Type) where
  /-- Is there a file with the name, and no directory? -/
  isRegular : String → m (Except FileError Bool)
  /-- The content of a file. -/
  read : String → m (Except FileError Bytes)
  /-- Gives a file its content, and makes it if there is none. -/
  write : String → Bytes → m (Except FileError Unit)

end DexPatch
