import DexPatch.Proofs.Annotations
import DexPatch.Proofs.Regions

namespace DexPatch

/-!
# Annotations found where they are placed

Directories lead to sets of annotations and to lists of sets, lists to sets,
and sets to annotations.  All of these were placed in front of what leads to
them, so each directory is read back at its offset, from the inside out,
whether or not its sets and annotations are shared with others.
-/

/-- What was placed, or was absent, is read at its offset. -/
theorem Layout.AllPlaced.leads
    {α : Type}
    {layout : Layout}
    {pieces : List (Option (List UInt8))}
    {offsets : List Nat}
    {image : Bytes}
    {reader : Nat → Except DecodeError α}
    {bytes : α → List UInt8}
    {x : Option α}
    {offset : Nat}
    (placed : layout.AllPlaced pieces offsets)
    (within : layout.Within image)
    (start : 112 ≤ layout.base)
    (fits : image.size < 4294967296)
    (member : (x.map bytes, offset) ∈ List.zip pieces offsets)
    (reads : ∀ y, x = some y → Holds image offset (bytes y) → reader offset = .ok y) :
    offset < 4294967296 ∧ atOffset offset reader = .ok x := by
  cases x with
  | none =>
      have zero : offset = 0 := placed.2 _ member
      exact ⟨by omega, atOffset_eq_none_iff.mpr zero⟩
  | some y =>
      obtain ⟨behind, held⟩ := placed.holds within member
      have inside := held.le_size
      exact ⟨by omega, atOffset_eq_some_iff.mpr ⟨by omega, reads y rfl held⟩⟩

/-- The piece beside an element of groups that were cut out of a longer list. -/
theorem exists_regroup
    {α β γ : Type}
    {list : List γ}
    (groupOf : γ → List α)
    (whole : List β)
    {i : Nat}
    {x : γ}
    (found : list[i]? = some x) :
    ∃ part,
      (regroup (list.map groupOf) whole)[i]? = some part ∧
        (groupOf x, part) ∈ List.zip (list.map groupOf) (regroup (list.map groupOf) whole) := by
  obtain ⟨inside, -⟩ := List.getElem?_eq_some_iff.mp found
  have bound : i < (regroup (list.map groupOf) whole).length := by
    simpa [length_regroup] using inside
  refine ⟨_, List.getElem?_eq_getElem bound, mem_zip_iff.mpr ⟨i, ?_, ?_⟩⟩
  · simp [found]
  · exact List.getElem?_eq_getElem bound

namespace AnnotationDirectory

/-- The sets of all directories. -/
def allSets (directories : List (Option AnnotationDirectory)) : List AnnotationSet :=
  (directories.filterMap id).flatMap (·.sets)

/-- The lists of sets of a directory, one for each method whose parameters are annotated. -/
def refLists : Option AnnotationDirectory → List (List (Option AnnotationSet))
  | some directory => directory.ofParameters.map (·.2)
  | none => []

/-- The written form of each directory, given the offsets of all lists of sets. -/
def pieces (offsets : AnnotationOffsets) (directories : List (Option AnnotationDirectory))
    (listOffsets : List Nat) : List (Option (List UInt8)) :=
  (List.zip directories (regroup (directories.map refLists) listOffsets)).map
    fun (directory, listOffsets) =>
      directory.map fun directory => offsets.directoryBytes directory listOffsets

variable {directories : List (Option AnnotationDirectory)} {directory : AnnotationDirectory}

/-- The sets of a directory are among those of all directories. -/
theorem mem_allSets
    {set : AnnotationSet}
    (listed : some directory ∈ directories)
    (member : set ∈ directory.sets) :
    set ∈ allSets directories :=
  List.mem_flatMap.mpr ⟨directory, List.mem_filterMap.mpr ⟨some directory, listed, rfl⟩, member⟩

/-- The sets of a directory itself are sets of it. -/
theorem mem_sets_of_ownSets
    {set : AnnotationSet}
    (member : set ∈ directory.ownSets) :
    set ∈ directory.sets :=
  List.mem_append_left _ member

/-- The sets in the lists of a directory are sets of it. -/
theorem mem_sets_of_ofParameters
    {entry : UInt32 × List (Option AnnotationSet)}
    {set : AnnotationSet}
    (listed : entry ∈ directory.ofParameters)
    (member : some set ∈ entry.2) :
    set ∈ directory.sets :=
  List.mem_append_right _
    (List.mem_flatMap.mpr ⟨entry, listed, List.mem_filterMap.mpr ⟨some set, member, rfl⟩⟩)

end AnnotationDirectory

open AnnotationDirectory (allSets)

/-- The annotations of directories are where the tables say, and so are their sets; their lists of
sets and they themselves are at the offsets beside them. -/
structure Layout.AnnotationsPlaced
    (layout : Layout)
    (directories : List (Option AnnotationDirectory))
    (offsets : AnnotationOffsets)
    (listOffsets directoryOffsets : List Nat) :
    Prop where
  items :
    ∀ set ∈ allSets directories, ∀ item ∈ set,
      layout.Placed (some item.bytes) (offsetIn offsets.items item.bytes)
  sets :
    ∀ set ∈ allSets directories,
      layout.Placed (some (offsetListBytes (AnnotationOffsets.entries offsets.items set)))
        (offsets.ofSet set)
  refLists :
    layout.AllPlaced
      ((directories.map AnnotationDirectory.refLists).flatten.map fun sets =>
        some (offsets.refListBytes sets))
      listOffsets
  directories :
    layout.AllPlaced (AnnotationDirectory.pieces offsets directories listOffsets) directoryOffsets

namespace Layout.AnnotationsPlaced

variable {layout : Layout} {directories : List (Option AnnotationDirectory)}
variable {offsets : AnnotationOffsets} {listOffsets directoryOffsets : List Nat} {image : Bytes}

/-- A set is read at the offset that its table has. -/
theorem leadsToSet
    (placed : layout.AnnotationsPlaced directories offsets listOffsets directoryOffsets)
    (start : 112 ≤ layout.base)
    (within : layout.Within image)
    (fits : image.size < 4294967296)
    {set : AnnotationSet}
    (member : set ∈ allSets directories) :
    LeadsToSet image (offsets.ofSet set) set := by
  obtain ⟨behind, held⟩ := placed.sets set member
  have inside := (held image within).le_size
  exact ⟨by omega, by omega, annotationSetAt_of_holds fits
    (fun item isItem => (placed.items set member item isItem).2 image within) (held image within)⟩

/-- A list of sets is read at the offset beside it. -/
theorem leadsToRefList
    (placed : layout.AnnotationsPlaced directories offsets listOffsets directoryOffsets)
    (start : 112 ≤ layout.base)
    (within : layout.Within image)
    (fits : image.size < 4294967296)
    {sets : List (Option AnnotationSet)}
    {offset : Nat}
    (member :
      (sets, offset) ∈
        List.zip (directories.map AnnotationDirectory.refLists).flatten listOffsets)
    (listed : ∀ set, some set ∈ sets → set ∈ allSets directories) :
    offset < 4294967296 ∧ refListAt image offset = .ok sets := by
  have beside :
      (some (offsets.refListBytes sets), offset) ∈
        List.zip
          ((directories.map AnnotationDirectory.refLists).flatten.map fun sets =>
            some (offsets.refListBytes sets))
          listOffsets := by
    rw [List.zip_map_left]
    exact List.mem_map.mpr ⟨_, member, rfl⟩
  obtain ⟨-, held⟩ := placed.refLists.holds within beside
  have inside := held.le_size
  have positive : 4 ≤ (offsets.refListBytes sets).length := by
    simp [AnnotationOffsets.refListBytes, offsetListBytes]
  exact ⟨by omega, refListAt_of_holds fits
    (fun set isSet => placed.leadsToSet start within fits (listed set isSet)) held⟩

/-- A directory is read at the offset beside it, where an absent one has offset zero. -/
theorem leadsToDirectory
    (placed : layout.AnnotationsPlaced directories offsets listOffsets directoryOffsets)
    (start : 112 ≤ layout.base)
    (within : layout.Within image)
    (fits : image.size < 4294967296)
    {i offset : Nat}
    {directory : Option AnnotationDirectory}
    (found : directories[i]? = some directory)
    (beside : directoryOffsets[i]? = some offset) :
    offset < 4294967296 ∧ atOffset offset (directoryAt image) = .ok directory := by
  have isDirectory := List.mem_of_getElem? found
  obtain ⟨lists, part, grouped⟩ :=
    exists_regroup AnnotationDirectory.refLists listOffsets found
  have sameLength :
      listOffsets.length = (directories.map AnnotationDirectory.refLists).flatten.length := by
    rw [placed.refLists.1, List.length_map]
  obtain ⟨partLength, partBeside⟩ := regroup_spec sameLength grouped
  have piece :
      (AnnotationDirectory.pieces offsets directories listOffsets)[i]? =
        some (directory.map fun directory => offsets.directoryBytes directory lists) := by
    have zipped :
        (List.zip directories
            (regroup (directories.map AnnotationDirectory.refLists) listOffsets))[i]? =
          some (directory, lists) :=
      List.getElem?_zip_eq_some.mpr ⟨found, part⟩
    simp [AnnotationDirectory.pieces, zipped]
  refine placed.directories.leads within start fits (mem_zip_iff.mpr ⟨i, piece, beside⟩)
    fun present isPresent held => ?_
  subst isPresent
  refine directoryAt_of_holds fits (fun set member => ?_)
    (by simpa [AnnotationDirectory.refLists] using partLength) (fun entry member => ?_) held
  · exact placed.leadsToSet start within fits
      (AnnotationDirectory.mem_allSets isDirectory (AnnotationDirectory.mem_sets_of_ownSets member))
  · have entryBeside :
        (entry.1.2, entry.2) ∈ List.zip (AnnotationDirectory.refLists (some present)) lists := by
      rw [AnnotationDirectory.refLists, List.zip_map_left]
      exact List.mem_map.mpr ⟨entry, member, rfl⟩
    refine placed.leadsToRefList start within fits (partBeside _ entryBeside) fun set isSet => ?_
    exact AnnotationDirectory.mem_allSets isDirectory
      (AnnotationDirectory.mem_sets_of_ofParameters (List.of_mem_zip member).1 isSet)

end Layout.AnnotationsPlaced

end DexPatch
