import DexPatch.Archive.Writer

namespace DexPatch.Archive

/-!
# Patching archives

Every image in an archive is patched by itself, with the same requests.  An
archive with a patched image is written again, with all its other entries as
they were.
-/

/-- The images of an archive and their contents.  All entries have to be readable, and the first
that is not makes the archive unreadable. -/
def images : Archive → Except ArchiveError (List (Entry × Bytes))
  | [] => .ok []
  | entry :: rest => do
    let _ ← entry.readable
    if entry.isDex then
      let content ← entry.content
      let others ← images rest
      return (entry, content) :: others
    else
      images rest

/-- A run over an archive: the outcomes it reports, each with the name of the entry, and what it
gives in the end. -/
structure Run where
  outcomes : List (String × Outcome)
  /-- The new archive, none if nothing was patched. -/
  output : Except ArchiveError (Option Archive)
deriving Repr

/-- Applies requests to images, and gives the outcomes and the new images by name. -/
def patchImages (form : EmptyListForm) (requests : List Request) :
    List (Entry × Bytes) →
      List (String × Outcome) × Except ArchiveError (List (String × Bytes))
  | [] => ([], .ok [])
  | (entry, image) :: rest =>
    let run := DexPatch.Run.ofImage form image requests
    let reported := run.outcomes.map fun outcome => (entry.name, outcome)
    match run.output with
    | .error reason => (reported, .error (.entry entry.name reason))
    | .ok output =>
      let (outcomes, patched) := patchImages form requests rest
      (reported ++ outcomes,
        patched.map fun others => (output.toList.map fun image => (entry.name, image)) ++ others)

/-- The archive with new contents for some entries, if there are any. -/
def replaced (archive : Archive) (patched : List (String × Bytes)) : Option Archive :=
  if patched.isEmpty then
    none
  else
    some <| List.map (fun entry : Entry =>
      match patched.lookup entry.name with
      | some content => entry.withContent content
      | none => entry) archive

/-- Applies requests to all images of an archive. -/
def patch (form : EmptyListForm) (archive : Archive) (requests : List Request) : Run :=
  match images archive with
  | .error reason => { outcomes := [], output := .error reason }
  | .ok images =>
    let (outcomes, patched) := patchImages form requests images
    { outcomes, output := patched.map (replaced archive) }

/-- Applies requests to all images of an archive given in bytes. -/
def patchBytes (form : EmptyListForm) (data : Bytes) (requests : List Request) : Run :=
  match read data with
  | .error reason => { outcomes := [], output := .error reason }
  | .ok archive => patch form archive requests

end DexPatch.Archive
