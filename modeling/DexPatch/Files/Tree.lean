import DexPatch.Files.Basic
import DexPatch.Text.Blank

namespace DexPatch

/-!
# Trees of files

A tree of files in memory, and names in it.  The parts of a name are walked
one after the other; a part that is empty or a single dot stays where it is,
two dots lead up, and the root is above itself.  A name that ends in a slash
asks for a directory, and no file is made or written by such a name.
-/

/-- The parts that lead from the root to a file or directory. -/
abbrev Path := List String

/-- Files with their contents, and directories.  What a file or directory lies in is a directory
too. -/
structure FileTree where
  files : List (Path × Bytes)
  directories : List Path
deriving DecidableEq, Repr, Inhabited

/-- What a name leads to; it may ask for a directory where there is none. -/
inductive Place where
  | file (path : Path) (asDirectory : Bool)
  | directory (path : Path)
  /-- Nothing, in a directory that is there. -/
  | vacant (path : Path) (asDirectory : Bool)
  /-- Nothing, in a directory that is there; the last part is too long for a name. -/
  | nameless (asDirectory : Bool)
deriving DecidableEq, Repr

/-- The most bytes of a part of a name. -/
def longestPart : Nat := 255

/-- The most bytes of a name. -/
def longestName : Nat := 4095

namespace FileTree

/-- The content of the file at a path. -/
def content? (tree : FileTree) (path : Path) : Option Bytes := tree.files.lookup path

/-- Is there a directory at a path? -/
def hasDirectory (tree : FileTree) (path : Path) : Bool :=
  path.isEmpty || tree.directories.any (path.isPrefixOf ·) ||
    tree.files.any fun (file, _) => path.length < file.length && path.isPrefixOf file

/-- Where the parts of a name lead from a directory. -/
def walk (tree : FileTree) : (here : Path) → List String → Except FileError Place
  | here, [] => .ok (.directory here)
  | here, part :: rest =>
    if part = "" ∨ part = "." then
      walk tree here rest
    else if part = ".." then
      walk tree here.dropLast rest
    else
      let path := here ++ [part]
      let isLast := rest.all (· == "")
      if longestPart < part.utf8ByteSize then
        if isLast then .ok (.nameless (!rest.isEmpty)) else .error .nameTooLong
      else if tree.hasDirectory path then
        walk tree path rest
      else if (tree.content? path).isSome then
        if isLast then .ok (.file path (!rest.isEmpty)) else .error .notDirectory
      else if isLast then
        .ok (.vacant path (!rest.isEmpty))
      else
        .error .notFound

/-- What a name leads to. -/
def place (tree : FileTree) (name : String) : Except FileError Place :=
  if name.toList.contains '\x00' then
    .error .zeroInName
  else if name = "" then
    .error .notFound
  else if longestName < name.utf8ByteSize then
    .error .nameTooLong
  else
    tree.walk [] ((Text.splitAt '/' name.toList).map String.ofList)

/-- Does the name lead to a file? -/
def isRegular (tree : FileTree) (name : String) : Except FileError Bool := do
  match ← tree.place name with
  | .file _ false => return true
  | .file _ true => throw .notDirectory
  | .directory _ => return false
  | .vacant _ _ => throw .notFound
  | .nameless _ => throw .nameTooLong

/-- The content of the file that the name leads to. -/
def read (tree : FileTree) (name : String) : Except FileError Bytes := do
  match ← tree.place name with
  | .file path false => return (tree.content? path).getD #[]
  | .file _ true => throw .notDirectory
  | .directory _ => throw .isDirectory
  | .vacant _ _ => throw .notFound
  | .nameless _ => throw .nameTooLong

/-- The tree with a content for the file at a path. -/
def put (tree : FileTree) (path : Path) (content : Bytes) : FileTree :=
  { tree with files := (path, content) :: tree.files.filter (·.1 != path) }

@[simp] theorem content?_put_self (tree : FileTree) (path : Path) (content : Bytes) :
    (tree.put path content).content? path = some content := by
  simp [put, content?]

theorem content?_put_of_ne (tree : FileTree) {path other : Path} (content : Bytes)
    (different : other ≠ path) : (tree.put path content).content? other = tree.content? other := by
  have missed : (other == path) = false := by simpa using different
  have search : ∀ files : List (Path × Bytes),
      (files.filter (·.1 != path)).lookup other = files.lookup other := by
    intro files
    induction files with
    | nil => rfl
    | cons file rest ih =>
      obtain ⟨name, held⟩ := file
      by_cases same : name = path
      · simp [same, List.lookup_cons, ih, missed]
      · simp [same, List.lookup_cons, ih]
  simp [put, content?, List.lookup_cons, missed, search]

/-- The tree with a content for the file that the name leads to. -/
def write (tree : FileTree) (name : String) (content : Bytes) : Except FileError FileTree := do
  match ← tree.place name with
  | .file path false => return tree.put path content
  | .vacant path false => return tree.put path content
  | .nameless false => throw .nameTooLong
  | .directory _ => throw .isDirectory
  | .file _ true => throw .isDirectory
  | .vacant _ true => throw .isDirectory
  | .nameless true => throw .isDirectory

instance : Files (StateM FileTree) where
  isRegular name := return (← get).isRegular name
  read name := return (← get).read name
  write name content := do
    match (← get).write name content with
    | .ok tree =>
      set tree
      return .ok ()
    | .error reason => return .error reason

end FileTree

end DexPatch
