import DexPatch.Patch.Run

namespace DexPatch

/-!
# What can be wrong with an archive

An archive can be unreadable as a whole or because of an entry, the content of
an entry can contradict its checksum, and an image in it can be one that
cannot be patched.
-/

/-- What an archive or an entry has that makes it unreadable. -/
inductive ContainerFault where
  | invalid
  | unsupportedCompression
  | encrypted
  /-- An entry cannot be written under a name that is too long for its headers. -/
  | nameTooLong
deriving DecidableEq, Repr

def ContainerFault.message : ContainerFault → String
  | .invalid => "invalid Zip archive"
  | .unsupportedCompression => "unsupported Zip archive: Compression method not supported"
  | .encrypted => "unsupported Zip archive: Password required to decrypt file"
  | .nameTooLong => "invalid Zip archive: file name too long"

/-- What is wrong with the content of an entry. -/
inductive ContentFault where
  | corruptData
  | wrongChecksum
deriving DecidableEq, Repr

def ContentFault.message : ContentFault → String
  | .corruptData => "corrupt deflate stream"
  | .wrongChecksum => "Invalid checksum"

/-- Why an archive cannot be patched. -/
inductive ArchiveError where
  | container (fault : ContainerFault)
  | content (fault : ContentFault)
  | entry (name : String) (reason : PatchError)
deriving DecidableEq, Repr

def ArchiveError.message : ArchiveError → String
  | .container fault => "archive error: " ++ fault.message
  | .content fault => "archive i/o error: " ++ fault.message
  | .entry name reason => "entry " ++ name ++ ": " ++ reason.message

end DexPatch
