import DexPatch.Files.Tree
import Mathlib.Tactic.SplitIfs

namespace DexPatch

/-!
# Writing in a tree of files

Writing changes the content of one file, or makes it, and leaves every other
file and all directories as they were.  The name that has been written leads
to the file then, and the content is read there.
-/

namespace Place

/-- The path at which a file can be written: there is one, or nothing. -/
def writable? : Place → Option Path
  | .file path false => some path
  | .vacant path false => some path
  | _ => none

theorem writable?_file {path other : Path} {asDirectory : Bool} :
    (Place.file path asDirectory).writable? = some other ↔ asDirectory = false ∧ path = other := by
  cases asDirectory <;> simp [writable?]

theorem writable?_vacant {path other : Path} {asDirectory : Bool} :
    (Place.vacant path asDirectory).writable? = some other ↔ asDirectory = false ∧ path = other := by
  cases asDirectory <;> simp [writable?]

end Place

namespace FileTree

/-- The tree with no more than one file. -/
def single (name : String) (content : Bytes) : FileTree :=
  { files := [([name], content)], directories := [] }

/-- The name leads to a file, or to where one can be made. -/
def LeadsTo (tree : FileTree) (name : String) (path : Path) : Prop :=
  ∃ place, tree.place name = .ok place ∧ place.writable? = some path

/-- No more than the file at a path has become another one. -/
structure SameBut (path : Path) (before after : FileTree) : Prop where
  content? : ∀ other, other ≠ path → after.content? other = before.content? other
  hasDirectory : ∀ other, after.hasDirectory other = before.hasDirectory other

variable {tree before after : FileTree} {name : String} {here path other : Path}
  {parts : List String} {place : Place} {content : Bytes}

/-! ## Directories -/

theorem hasDirectory_iff :
    tree.hasDirectory path = true ↔
      path = [] ∨
        (∃ directory ∈ tree.directories, path <+: directory) ∨
          ∃ file ∈ tree.files, path.length < file.1.length ∧ path <+: file.1 := by
  simp [hasDirectory, or_assoc]

/-- A directory lies in directories. -/
theorem hasDirectory_of_isPrefix
    (above : path <+: other)
    (directory : tree.hasDirectory other = true) :
    tree.hasDirectory path = true := by
  rw [hasDirectory_iff] at directory ⊢
  rcases directory with rfl | ⟨below, listed, isPrefix⟩ | ⟨file, listed, shorter, isPrefix⟩
  · exact .inl (List.prefix_nil.mp above)
  · exact .inr (.inl ⟨below, listed, above.trans isPrefix⟩)
  · exact .inr (.inr ⟨file, listed, Nat.lt_of_le_of_lt above.length_le shorter, above.trans isPrefix⟩)

/-- A file in a directory makes no other directory. -/
theorem hasDirectory_put
    {parent : Path}
    (directory : tree.hasDirectory parent = true)
    (last : String)
    (content : Bytes)
    (other : Path) :
    (tree.put (parent ++ [last]) content).hasDirectory other = tree.hasDirectory other := by
  rw [Bool.eq_iff_iff]
  constructor
  · intro isDirectory
    rw [hasDirectory_iff] at isDirectory
    rcases isDirectory with rfl | ⟨below, listed, above⟩ | ⟨file, listed, shorter, above⟩
    · exact hasDirectory_iff.mpr (.inl rfl)
    · exact hasDirectory_iff.mpr (.inr (.inl ⟨below, listed, above⟩))
    · rcases List.mem_cons.mp listed with rfl | listed
      · -- What the new file lies in was a directory already.
        refine hasDirectory_of_isPrefix ?_ directory
        rcases List.prefix_concat_iff.mp above with whole | above
        · rw [whole] at shorter
          exact (Nat.lt_irrefl _ shorter).elim
        · exact above
      · exact hasDirectory_iff.mpr
          (.inr (.inr ⟨file, (List.mem_filter.mp listed).1, shorter, above⟩))
  · intro isDirectory
    rw [hasDirectory_iff] at isDirectory ⊢
    rcases isDirectory with rfl | ⟨below, listed, above⟩ | ⟨file, listed, shorter, above⟩
    · exact .inl rfl
    · exact .inr (.inl ⟨below, listed, above⟩)
    · by_cases same : file.1 = parent ++ [last]
      · exact .inr (.inr ⟨_, List.mem_cons_self, same ▸ shorter, same ▸ above⟩)
      · exact .inr (.inr ⟨file,
          List.mem_cons_of_mem _ (List.mem_filter.mpr ⟨listed, by simpa using same⟩),
          shorter, above⟩)

/-! ## Names -/

/-- What can be written lies in a directory. -/
theorem exists_parent_of_walk
    (directory : tree.hasDirectory here = true)
    (leads : tree.walk here parts = .ok place)
    (writable : place.writable? = some path) :
    ∃ parent last, path = parent ++ [last] ∧ tree.hasDirectory parent = true := by
  fun_induction tree.walk here parts with
  | case1 here =>
      cases leads
      cases writable
  | case2 here part rest stays inductionHypothesis =>
      exact inductionHypothesis directory leads
  | case3 here rest up inductionHypothesis =>
      exact inductionHypothesis
        (hasDirectory_of_isPrefix (List.dropLast_prefix here) directory) leads
  | case4 =>
      cases leads
      cases writable
  | case6 here part rest stays up below short isDirectory inductionHypothesis =>
      exact inductionHypothesis isDirectory leads
  | case7 =>
      cases leads
      obtain ⟨-, rfl⟩ := Place.writable?_file.mp writable
      exact ⟨_, _, rfl, directory⟩
  | case9 =>
      cases leads
      obtain ⟨-, rfl⟩ := Place.writable?_vacant.mp writable
      exact ⟨_, _, rfl, directory⟩
  | case5 | case8 | case10 => cases leads

/-- A name that leads to where a file can be made leads to the file once it has been made. -/
theorem walk_of_same
    (directories : ∀ other, after.hasDirectory other = before.hasDirectory other)
    (isFile : (after.content? path).isSome = true)
    (leads : before.walk here parts = .ok place)
    (writable : place.writable? = some path) :
    after.walk here parts = .ok (.file path false) := by
  fun_induction before.walk here parts with
  | case1 here =>
      cases leads
      cases writable
  | case2 here part rest stays inductionHypothesis =>
      rw [walk, if_pos stays]
      exact inductionHypothesis leads
  | case3 here rest up inductionHypothesis =>
      rw [walk, if_neg up, if_pos rfl]
      exact inductionHypothesis leads
  | case4 =>
      cases leads
      cases writable
  | case6 here part rest stays up below short isDirectory inductionHypothesis =>
      rw [walk, if_neg stays, if_neg up, if_neg short, directories, if_pos isDirectory]
      exact inductionHypothesis leads
  | case7 here part rest stays up below isLast short noDirectory _ last =>
      cases leads
      obtain ⟨asFile, rfl⟩ := Place.writable?_file.mp writable
      rw [walk, if_neg stays, if_neg up, if_neg short, directories, if_neg noDirectory,
        if_pos isFile, if_pos last, asFile]
  | case9 here part rest stays up below isLast short noDirectory _ last =>
      cases leads
      obtain ⟨asFile, rfl⟩ := Place.writable?_vacant.mp writable
      rw [walk, if_neg stays, if_neg up, if_neg short, directories, if_neg noDirectory,
        if_pos isFile, if_pos last, asFile]
  | case5 | case8 | case10 => cases leads

/-- A name that has been written leads to the file. -/
theorem place_of_same
    (directories : ∀ other, after.hasDirectory other = before.hasDirectory other)
    (isFile : (after.content? path).isSome = true)
    (leads : before.LeadsTo name path) :
    after.place name = .ok (.file path false) := by
  obtain ⟨place, isPlace, writable⟩ := leads
  rw [FileTree.place] at isPlace ⊢
  split_ifs at isPlace ⊢
  exact walk_of_same directories isFile isPlace writable

/-- What a name leads to lies in a directory. -/
theorem LeadsTo.exists_parent (leads : tree.LeadsTo name path) :
    ∃ parent last, path = parent ++ [last] ∧ tree.hasDirectory parent = true := by
  obtain ⟨place, isPlace, writable⟩ := leads
  rw [FileTree.place] at isPlace
  split_ifs at isPlace
  exact exists_parent_of_walk rfl isPlace writable

/-! ## Writing -/

/-- Writing succeeds exactly if the name leads to where a file can be written, and gives that file its
content. -/
theorem write_eq_ok_iff :
    tree.write name content = .ok after ↔
      ∃ path, tree.LeadsTo name path ∧ after = tree.put path content := by
  rw [write]
  cases isPlace : tree.place name with
  | error reason =>
      simp [LeadsTo, isPlace, bind, Except.bind]
  | ok place =>
      simp only [LeadsTo, isPlace, bind, Except.bind, Except.ok.injEq, exists_eq_left']
      cases place with
      | file path asDirectory | vacant path asDirectory =>
          cases asDirectory <;> simp [Place.writable?, pure, Except.pure, eq_comm]
      | directory path =>
          simp [Place.writable?]
      | nameless asDirectory =>
          cases asDirectory <;> simp [Place.writable?]

/-- A content that has been put where a name leads to is read by this name, and nothing else has
changed. -/
theorem LeadsTo.put
    (leads : tree.LeadsTo name path)
    (content : Bytes) :
    SameBut path tree (tree.put path content) ∧ (tree.put path content).read name = .ok content := by
  obtain ⟨parent, last, rfl, directory⟩ := leads.exists_parent
  have directories := hasDirectory_put directory last content
  have isPlace := place_of_same directories (by rw [content?_put_self]; rfl) leads
  refine ⟨⟨fun other different => content?_put_of_ne tree content different, directories⟩, ?_⟩
  rw [read, isPlace]
  simp [bind, Except.bind, pure, Except.pure]

end FileTree

/-! ## Systems with files -/

/-- The operations on the files of a system, where they succeed, do what they do in a tree of files, in
which no two paths lead to one file.  Any of them may fail in any state, but looking at a file changes
none even then. -/
class LawfulFiles (σ : Type) [Files (StateM σ)] where
  /-- The files that there are in a state. -/
  tree : σ → FileTree
  tree_isRegular
    {name : String} {before after : σ} {result : Except FileError Bool} :
    (Files.isRegular (m := StateM σ) name).run before = (result, after) →
      tree after = tree before
  isRegular_ok
    {name : String} {before after : σ} {regular : Bool} :
    (Files.isRegular (m := StateM σ) name).run before = (.ok regular, after) →
      (tree before).isRegular name = .ok regular
  tree_read
    {name : String} {before after : σ} {result : Except FileError Bytes} :
    (Files.read (m := StateM σ) name).run before = (result, after) →
      tree after = tree before
  read_ok
    {name : String} {before after : σ} {content : Bytes} :
    (Files.read (m := StateM σ) name).run before = (.ok content, after) →
      (tree before).read name = .ok content
  write_ok
    {name : String} {content : Bytes} {before after : σ} :
    (Files.write (m := StateM σ) name content).run before = (.ok (), after) →
      (tree before).write name content = .ok (tree after)

instance : LawfulFiles FileTree where
  tree := id
  tree_isRegular := by
    intro name before after result ran
    exact (congrArg Prod.snd ran).symm
  isRegular_ok := by
    intro name before after regular ran
    exact congrArg Prod.fst ran
  tree_read := by
    intro name before after result ran
    exact (congrArg Prod.snd ran).symm
  read_ok := by
    intro name before after content ran
    exact congrArg Prod.fst ran
  write_ok := by
    intro name content before after ran
    cases isWritten : FileTree.write before name content with
    | error reason =>
        simp only [Files.write, StateT.run_bind, StateT.run_get, pure_bind, isWritten] at ran
        cases ran
    | ok tree =>
        simp only [Files.write, StateT.run_bind, StateT.run_get, pure_bind, isWritten] at ran
        cases ran
        exact isWritten

/-- A content that has been written is read by its name, and no other file has changed. -/
theorem LawfulFiles.exists_sameBut_of_write
    {σ : Type}
    [Files (StateM σ)]
    [LawfulFiles σ]
    {name : String}
    {content : Bytes}
    {before after : σ}
    (writes : (Files.write (m := StateM σ) name content).run before = (.ok (), after)) :
    ∃ path,
      (tree before).LeadsTo name path ∧
        FileTree.SameBut path (tree before) (tree after) ∧
          (tree after).read name = .ok content := by
  obtain ⟨path, leads, isTree⟩ := FileTree.write_eq_ok_iff.mp (write_ok writes)
  rw [isTree]
  exact ⟨path, leads, leads.put content⟩

end DexPatch
