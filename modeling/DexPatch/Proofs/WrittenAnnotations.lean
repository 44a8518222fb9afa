import DexPatch.Proofs.AnnotationPasses
import DexPatch.Proofs.Writable

namespace DexPatch

/-!
# Annotations written for all directories

The passes over all directories look up what these refer to, and if all of it
has new numbers, lay out what the renumbered directories that are in order are
laid out as.  Each pass finds what the one before it has written, since both
work out the same bytes.  So every directory is read back renumbered and in
order, although equal annotations and equal sets share one place.
-/

open AnnotationDirectory (allSets)

/-- The sets of directories that are changed, one directory after the other. -/
theorem AnnotationDirectory.allSets_map
    (change : AnnotationDirectory → AnnotationDirectory)
    (directories : List (Option AnnotationDirectory)) :
    allSets (directories.map (·.map change)) =
      (directories.filterMap id).flatMap fun directory => (change directory).sets := by
  rw [allSets, List.filterMap_map, ← List.flatMap_map change, List.map_filterMap]
  rfl

/-! ## What is laid out -/

namespace AnnotationPasses

/-- Where annotations and sets are. -/
def offsets (passes : AnnotationPasses) : AnnotationOffsets :=
  { items := passes.items.offsets, sets := passes.sets.offsets }

/-- The written forms of the annotations of all directories. -/
def itemKeys (directories : List (Option AnnotationDirectory)) : List (List UInt8) :=
  (allSets directories).flatMap fun set => List.map AnnotationItem.bytes set

/-- The sets of all directories as offsets of their annotations. -/
def setKeys (items : Std.HashMap (List UInt8) Nat)
    (directories : List (Option AnnotationDirectory)) : List (List Nat) :=
  (allSets directories).map (AnnotationOffsets.entries items)

/-- The lists of sets of all directories, laid out. -/
def laidOutRefLists (layout : Layout) (offsets : AnnotationOffsets)
    (directories : List (Option AnnotationDirectory)) : Layout × List Nat :=
  layout.place 4 <|
    (directories.map AnnotationDirectory.refLists).flatten.map fun sets =>
      some (offsets.refListBytes sets)

/-- Directories laid out, with their sets in front of them, behind their annotations. -/
def behindItems (items : Shared (List UInt8)) (directories : List (Option AnnotationDirectory)) :
    AnnotationPasses :=
  let sets := Shared.laidOut 4 offsetListBytes (items.layout.align 4) <|
    distinct (setKeys items.offsets directories)
  let offsets : AnnotationOffsets := { items := items.offsets, sets := sets.offsets }
  let refLists := laidOutRefLists (sets.layout.align 4) offsets directories
  let placed := (refLists.1.align 4).place 4 <|
    AnnotationDirectory.pieces offsets directories refLists.2
  { items, sets, directories := placed.2, layout := placed.1 }

/-- Directories laid out, with all that they lead to in front of them. -/
def laidOut (start : Layout) (directories : List (Option AnnotationDirectory)) :
    AnnotationPasses :=
  behindItems (Shared.laidOut 1 id start (distinct (itemKeys directories))) directories

end AnnotationPasses

/-! ## What the passes leave behind -/

namespace NewNumbers

variable (numbers : NewNumbers)

/-- Prepared directories whose sets have their new numbers too and are in order. -/
def finished (directories : List (Option AnnotationDirectory)) :
    List (Option AnnotationDirectory) :=
  directories.map (·.map (AnnotationDirectory.mapSets numbers.newSet))

theorem finished_prepared (directories : List (Option AnnotationDirectory)) :
    numbers.finished (directories.map (·.map numbers.prepared)) =
      directories.map (·.map numbers.newDirectory) := by
  have each :
      AnnotationDirectory.mapSets numbers.newSet ∘ numbers.prepared = numbers.newDirectory :=
    funext numbers.mapSets_prepared
  rw [finished, List.map_map, ← each]
  exact List.map_congr_left fun directory _ => by simp

/-- The sets are those of the prepared directories, one for one. -/
theorem allSets_finished (directories : List (Option AnnotationDirectory)) :
    allSets (numbers.finished directories) = (allSets directories).map numbers.newSet := by
  simp only [finished, AnnotationDirectory.allSets_map, AnnotationDirectory.sets_mapSets]
  rw [allSets, List.map_flatMap]

section Passes

variable {numbers} {directories : List (Option AnnotationDirectory)}

/-- The annotations of all prepared directories are looked up, and the different ones laid out. -/
theorem foldlM_writeItems
    (directories : List (Option AnnotationDirectory))
    (start : Layout) :
    (directories.filterMap id).foldlM numbers.writeItems { layout := start, offsets := ∅ } =
      (((allSets directories).flatMap (AnnotationSet.lookUps numbers.total)).forM
          numbers.checkOperand).mapError AnnotationError.refused >>= fun _ =>
        .ok (Shared.laidOut 1 id start
          (distinct (AnnotationPasses.itemKeys (numbers.finished directories)))) := by
  rw [AnnotationPasses.itemKeys, allSets_finished, List.flatMap_map, ← Shared.foldl_put_empty]
  exact (foldlM_flatMap _ AnnotationDirectory.sets _ _).trans (foldlM_sortedItems _ _)

/-- The different sets of all prepared directories are laid out, if everything that they refer to
has a new number and all their annotations are written. -/
theorem foldlM_writeSets
    {items : Std.HashMap (List UInt8) Nat}
    (covers : numbers.CoversSets (allSets directories))
    (found :
      ∀ set ∈ allSets directories, ∀ bytes ∈ numbers.newItems set,
        ∃ offset, items[bytes]? = some offset)
    (start : Layout) :
    (directories.filterMap id).foldlM (numbers.writeSets items) { layout := start, offsets := ∅ } =
      .ok (Shared.laidOut 4 offsetListBytes start
        (distinct (AnnotationPasses.setKeys items (numbers.finished directories)))) := by
  rw [AnnotationPasses.setKeys, allSets_finished, List.map_map, ← Shared.foldl_put_empty]
  exact (foldlM_flatMap _ AnnotationDirectory.sets _ _).trans (foldlM_setEntries covers found _)

/-- All lists of sets are placed as those of the directories in order. -/
theorem run_writeAllRefLists
    {offsets : AnnotationOffsets}
    (finds : ∀ directory, some directory ∈ directories → numbers.FindsAll offsets directory)
    (layout : Layout) :
    (numbers.writeAllRefLists offsets directories).run layout =
      .ok (
        regroup ((numbers.finished directories).map AnnotationDirectory.refLists)
          (AnnotationPasses.laidOutRefLists layout offsets (numbers.finished directories)).2,
        (AnnotationPasses.laidOutRefLists layout offsets (numbers.finished directories)).1) := by
  let piece (sets : List (Option AnnotationSet)) := some (offsets.refListBytes sets)
  let pieces (directory : Option AnnotationDirectory) :=
    (AnnotationDirectory.refLists
      (directory.map (AnnotationDirectory.mapSets numbers.newSet))).map piece
  have groups :
      directories.map pieces =
        ((numbers.finished directories).map AnnotationDirectory.refLists).map (List.map piece) := by
    rw [finished, List.map_map, List.map_map]
    rfl
  rw [writeAllRefLists]
  refine (Placing.run_mapM_of_place pieces (fun directory member layout => ?_) layout).trans ?_
  · cases directory with
    | none =>
        rfl
    | some directory =>
        exact run_writeRefLists (finds directory member) layout
  · rw [List.flatMap_def, groups, ← List.map_flatten, regroup_map]
    rfl

/-- All directories are placed as those in order, each with its offsets of lists of sets. -/
theorem run_writeAllDirectories
    {offsets : AnnotationOffsets}
    (finds : ∀ directory, some directory ∈ directories → numbers.FindsAll offsets directory)
    (listOffsets : List (List Nat))
    (layout : Layout) :
    (numbers.writeAllDirectories offsets (List.zip directories listOffsets)).run layout =
      .ok ((layout.place 4
        ((List.zip (numbers.finished directories) listOffsets).map
          fun (directory, listOffsets) =>
            directory.map fun directory =>
              offsets.directoryBytes directory listOffsets)).swap) := by
  rw [finished, List.zip_map_left, List.map_map]
  refine Placing.run_mapM_of_placed (fun entry member layout => ?_) layout
  obtain ⟨directory, lists⟩ := entry
  cases directory with
  | none =>
      rfl
  | some directory =>
      exact run_writeDirectory (finds directory (List.of_mem_zip member).1) lists layout

/-- The passes behind the one over annotations lay out the directories in order, if everything that
their sets refer to has a new number and all their annotations are written. -/
theorem writeBehindItems_eq_ok
    {items : Shared (List UInt8)}
    (covers : numbers.CoversSets (allSets directories))
    (found :
      ∀ set ∈ allSets directories, ∀ bytes ∈ numbers.newItems set,
        ∃ offset, items.offsets[bytes]? = some offset) :
    numbers.writeBehindItems directories items =
      .ok (AnnotationPasses.behindItems items (numbers.finished directories)) := by
  let sets := Shared.laidOut 4 offsetListBytes (items.layout.align 4) <|
    distinct (AnnotationPasses.setKeys items.offsets (numbers.finished directories))
  let offsets : AnnotationOffsets := { items := items.offsets, sets := sets.offsets }
  have finds (directory : AnnotationDirectory) (listed : some directory ∈ directories) :
      numbers.FindsAll offsets directory := by
    intro set member
    have isSet := AnnotationDirectory.mem_allSets listed member
    have isKey :
        numbers.newEntries items.offsets set ∈
          AnnotationPasses.setKeys items.offsets (numbers.finished directories) := by
      rw [AnnotationPasses.setKeys, allSets_finished]
      exact List.mem_map_of_mem (List.mem_map_of_mem isSet)
    obtain ⟨offset, isOffset⟩ := Shared.getElem?_laidOut isKey
    exact setOffset_eq_ok (setEntries_eq_ok (covers set isSet) (found set isSet)) isOffset
  rw [writeBehindItems, bind_of_ok (foldlM_writeSets covers found _),
    bind_of_ok (run_writeAllRefLists finds _)]
  exact bind_of_ok (run_writeAllDirectories finds _ _)

end Passes

/-- The passes look up the members of all directories and then what their sets refer to, and if all
of it has new numbers, they lay out the renumbered directories that are in order. -/
theorem writeAnnotations_eq
    (start : Layout)
    (directories : List (Option AnnotationDirectory)) :
    numbers.writeAnnotations start directories =
      (((directories.filterMap id).flatMap (·.memberRefs) ++
            (allSets (directories.map (·.map numbers.prepared))).flatMap
              (AnnotationSet.lookUps numbers.total)).forM
          numbers.checkOperand).mapError AnnotationError.refused >>= fun _ =>
        .ok (AnnotationPasses.laidOut start (directories.map (·.map numbers.newDirectory))) := by
  let prepared := directories.map (·.map numbers.prepared)
  rw [writeAnnotations, Resolves.prepareAll directories, forM_append]
  cases ((directories.filterMap id).flatMap (·.memberRefs)).forM numbers.checkOperand with
  | error reason =>
      rfl
  | ok _ =>
      -- Only the pass over annotations looks anything up; those behind it find what it has written.
      show (prepared.filterMap id).foldlM numbers.writeItems _ >>= _ = _
      rw [foldlM_writeItems]
      cases checked :
          ((allSets prepared).flatMap (AnnotationSet.lookUps numbers.total)).forM
            numbers.checkOperand with
      | error reason =>
          rfl
      | ok _ =>
          have covers : numbers.CoversSets (allSets prepared) := fun set isSet ref isLookUp =>
            checkOperand_eq_ok_iff.mp
              (forM_eq_ok_iff.mp checked ref (List.mem_flatMap.mpr ⟨set, isSet, isLookUp⟩))
          refine (writeBehindItems_eq_ok covers fun set isSet bytes isItem => ?_).trans ?_
          · refine Shared.getElem?_laidOut ?_
            rw [AnnotationPasses.itemKeys, allSets_finished]
            exact List.mem_flatMap.mpr ⟨_, List.mem_map_of_mem isSet, isItem⟩
          · rw [finished_prepared]
            rfl

end NewNumbers

/-! ## What is read back -/

namespace AnnotationPasses

variable (start : Layout) (directories : List (Option AnnotationDirectory))

/-- Each pass puts its pieces behind those of the passes before it. -/
theorem extends_laidOut :
    start.Extends (laidOut start directories).items.layout ∧
      (laidOut start directories).items.layout.Extends
        (laidOut start directories).sets.layout ∧
      (laidOut start directories).sets.layout.Extends (laidOut start directories).layout := by
  have refLists := ((laidOut start directories).sets.layout.align 4).place_spec 4
    (((directories.map AnnotationDirectory.refLists).flatten.map fun sets =>
      some ((laidOut start directories).offsets.refListBytes sets)))
  refine ⟨Shared.extends_laidOut _, (Layout.extends_align _ 4).trans (Shared.extends_laidOut _), ?_⟩
  refine (Layout.extends_align _ 4).trans (refLists.1.trans ?_)
  exact (Layout.extends_align _ 4).trans (Layout.place_spec _ 4 _).1

/-- There is an offset for each directory. -/
theorem length_directories_laidOut :
    (laidOut start directories).directories.length = directories.length := by
  rw [laidOut, behindItems, Layout.length_place, AnnotationDirectory.pieces, List.length_map,
    List.length_zip, length_regroup, List.length_map, Nat.min_self]

/-- Directories that are laid out stand behind everything that they lead to. -/
theorem annotationsPlaced :
    ∃ listOffsets,
      (laidOut start directories).layout.AnnotationsPlaced directories
        (laidOut start directories).offsets listOffsets
        (laidOut start directories).directories := by
  obtain ⟨-, behindItems, behindSets⟩ := extends_laidOut start directories
  let refLists :=
    laidOutRefLists ((laidOut start directories).sets.layout.align 4)
      (laidOut start directories).offsets directories
  have listsPlaced := Layout.place_spec
    ((laidOut start directories).sets.layout.align 4) 4
    ((directories.map AnnotationDirectory.refLists).flatten.map fun sets =>
      some ((laidOut start directories).offsets.refListBytes sets))
  have directoriesPlaced := Layout.place_spec (refLists.1.align 4) 4
    (AnnotationDirectory.pieces (laidOut start directories).offsets directories refLists.2)
  refine ⟨refLists.2, ?_, ?_, ?_, directoriesPlaced.2⟩
  · intro set isSet item isItem
    have isKey : item.bytes ∈ itemKeys directories :=
      List.mem_flatMap.mpr ⟨set, isSet, List.mem_map_of_mem isItem⟩
    have placed :
        (laidOut start directories).items.layout.Placed (some (id item.bytes))
          (offsetIn (laidOut start directories).items.offsets item.bytes) :=
      Shared.placed_laidOut isKey
    exact placed.of_extends (behindItems.trans behindSets)
  · intro set isSet
    exact (Shared.placed_laidOut (List.mem_map_of_mem isSet)).of_extends behindSets
  · exact listsPlaced.2.of_extends ((Layout.extends_align _ 4).trans directoriesPlaced.1)

/-- The different annotations of all directories are written once each. -/
theorem writesOnce_items :
    Shared.WritesOnce id start (itemKeys directories) (laidOut start directories).items :=
  Shared.writesOnce (fun _ => Nat.mod_one _) (Nat.mod_one _) _

/-- The different sets of all directories are written once each. -/
theorem writesOnce_sets :
    Shared.WritesOnce offsetListBytes ((laidOut start directories).items.layout.align 4)
      (setKeys (laidOut start directories).items.offsets directories)
      (laidOut start directories).sets := by
  refine Shared.writesOnce (fun entries => ?_) (Layout.position_align_mod _ (by decide)) _
  rw [offsetListBytes, List.length_append, Container.length_flatMap_of_width length_le32,
    length_le32]
  omega

variable {start directories}

/-- Each directory has an offset at which it is read. -/
theorem leadsToDirectory
    {image : Bytes}
    {i : Nat}
    {directory : Option AnnotationDirectory}
    (header : Header.size ≤ start.base)
    (within : (laidOut start directories).layout.Within image)
    (fits : image.size < 4294967296)
    (found : directories[i]? = some directory) :
    ∃ offset,
      (laidOut start directories).directories[i]? = some offset ∧
        offset < 4294967296 ∧
        atOffset offset (directoryAt image) = .ok directory := by
  obtain ⟨items, sets, layout⟩ := extends_laidOut start directories
  have behind : 112 ≤ (laidOut start directories).layout.base := by
    rw [(items.trans (sets.trans layout)).1]
    exact header
  obtain ⟨listOffsets, placed⟩ := annotationsPlaced start directories
  obtain ⟨inside, -⟩ := List.getElem?_eq_some_iff.mp found
  rw [← length_directories_laidOut start] at inside
  have beside := List.getElem?_eq_getElem inside
  exact ⟨_, beside, placed.leadsToDirectory behind within fits found beside⟩

end AnnotationPasses

namespace NewNumbers

variable {numbers : NewNumbers}

/-- Directories whose references all have new numbers are written. -/
theorem writeAnnotations_eq_ok
    {directories : List (Option AnnotationDirectory)}
    (covers :
      ∀ directory, some directory ∈ directories →
        ∀ ref ∈ directory.memberRefs ++ directory.annotationRefs, numbers.Renumbers ref)
    (start : Layout) :
    numbers.writeAnnotations start directories =
      .ok (AnnotationPasses.laidOut start (directories.map (·.map numbers.newDirectory))) := by
  have checked :
      ((directories.filterMap id).flatMap (·.memberRefs) ++
          (allSets (directories.map (·.map numbers.prepared))).flatMap
            (AnnotationSet.lookUps numbers.total)).forM numbers.checkOperand =
        .ok () := by
    refine forM_eq_ok_iff.mpr fun ref member => checkOperand_eq_ok_iff.mpr ?_
    rw [AnnotationDirectory.allSets_map] at member
    rcases List.mem_append.mp member with isMember | isLookUp
    · obtain ⟨directory, isDirectory, refers⟩ := List.mem_flatMap.mp isMember
      exact covers directory (by simpa using isDirectory) ref (List.mem_append_left _ refers)
    · obtain ⟨set, isSet, refers⟩ := List.mem_flatMap.mp isLookUp
      obtain ⟨directory, isDirectory, hasSet⟩ := List.mem_flatMap.mp isSet
      obtain ⟨item, isItem, itemRefers⟩ := List.mem_flatMap.mp refers
      refine covers directory (by simpa using isDirectory) ref (List.mem_append_right _ ?_)
      exact AnnotationDirectory.mem_annotationRefs.mpr
        ⟨set, numbers.mem_sets_prepared.mp hasSet, item, isItem,
          AnnotationItem.mem_lookUps.mp itemRefers⟩
  rw [writeAnnotations_eq, checked]
  rfl

/-- Directories whose references all have new numbers are written.  The annotations of all of them
are written once each, and so are the sets, and each of these is found when it is asked for.  Where
an image has what is written, behind a header and in less than 2³² bytes in all, each directory is
read back at its offset, renumbered and in order. -/
theorem writesOnce_and_reads
    (numbers : NewNumbers)
    {start : Layout}
    {directories : List (Option AnnotationDirectory)}
    (header : Header.size ≤ start.base)
    (covers :
      ∀ directory, some directory ∈ directories →
        ∀ ref ∈ directory.memberRefs ++ directory.annotationRefs, numbers.Renumbers ref) :
    let renumbered : List (Option AnnotationDirectory) :=
      directories.map (·.map fun directory => (directory.mapRefs numbers.total).arranged)
    ∃ written,
      numbers.writeAnnotations start directories = .ok written ∧
        Shared.WritesOnce id start (AnnotationPasses.itemKeys renumbered) written.items ∧
        Shared.WritesOnce offsetListBytes (written.items.layout.align 4)
          (AnnotationPasses.setKeys written.items.offsets renumbered) written.sets ∧
        ∀ image,
          written.layout.Within image →
          image.size < 4294967296 →
            ∀ (i : Nat) (directory : Option AnnotationDirectory),
              renumbered[i]? = some directory →
                ∃ offset,
                  written.directories[i]? = some offset ∧
                    offset < 4294967296 ∧
                    atOffset offset (directoryAt image) = .ok directory := by
  intro renumbered
  exact ⟨AnnotationPasses.laidOut start renumbered, writeAnnotations_eq_ok covers start,
    AnnotationPasses.writesOnce_items start renumbered,
    AnnotationPasses.writesOnce_sets start renumbered,
    fun image within fits i directory found =>
      AnnotationPasses.leadsToDirectory header within fits found⟩

/-! ### Two directories that share an annotation and its set -/

/-- A class with an annotation, a class without any, and a class with a method whose parameters have
no annotations, the empty set of them, and the set of the first class. -/
def twoWithOne (type method : UInt32) : List (Option AnnotationDirectory) :=
  let item : AnnotationItem := { visibility := 1, type, elements := [] }
  [some { ofClass := some [item], ofFields := [], ofMethods := [], ofParameters := [] },
    none,
    some
      { ofClass := none
        ofFields := []
        ofMethods := []
        ofParameters := [(method, [none, some [], some [item]])] }]

/-- The annotation is written at 112, and its set at 116. -/
theorem laidOut_twoWithOne :
    let passes := AnnotationPasses.laidOut { base := 112, bytes := #[] } (twoWithOne 1 0)
    passes.items.layout.bytes = #[1, 1, 0] ∧
      passes.sets.layout.bytes = #[1, 1, 0, 0, 1, 0, 0, 0, 112, 0, 0, 0, 0, 0, 0, 0] ∧
      passes.directories = [144, 0, 160] ∧
      passes.layout.base = 112 ∧
      passes.layout.bytes.size = 72 := by
  -- Hashes do not reduce, so what the tables have is found by their laws.
  have bytes : AnnotationItem.bytes { visibility := 1, type := 1, elements := [] } = [1, 1, 0] := by
    cbv
  have itemKeys : distinct (AnnotationPasses.itemKeys (twoWithOne 1 0)) = [[1, 1, 0]] := by
    simp [AnnotationPasses.itemKeys, allSets, twoWithOne, AnnotationDirectory.sets, bytes, distinct,
      distinctStep]
  have items :
      Shared.laidOut 1 id { base := 112, bytes := #[] } [[1, 1, 0]] =
        { layout := { base := 112, bytes := #[1, 1, 0] }
          offsets := offsetTable [[1, 1, 0]] [112] } := by
    simp [Shared.laidOut, Layout.place_cons, Layout.placed, Layout.align, Layout.append,
      Layout.position, padding]
  have setKeys :
      distinct (AnnotationPasses.setKeys (offsetTable [[1, 1, 0]] [112]) (twoWithOne 1 0)) =
        [[112], []] := by
    simp [AnnotationPasses.setKeys, allSets, twoWithOne, AnnotationDirectory.sets,
      AnnotationOffsets.entries, bytes, offsetIn, offsetTable, distinct, distinctStep]
  have sets :
      Layout.place (Layout.align { base := 112, bytes := #[1, 1, 0] } 4) 4
          [some (offsetListBytes [112]), some (offsetListBytes [])] =
        ({ base := 112, bytes := #[1, 1, 0, 0, 1, 0, 0, 0, 112, 0, 0, 0, 0, 0, 0, 0] },
          [116, 124]) := by
    rfl
  rw [AnnotationPasses.laidOut, itemKeys, items, AnnotationPasses.behindItems, setKeys,
    Shared.laidOut, List.map_cons, List.map_cons, List.map_nil, sets]
  simp [AnnotationPasses.laidOutRefLists, AnnotationDirectory.refLists, AnnotationDirectory.pieces,
    twoWithOne, regroup, Layout.place_cons, Layout.placed, Layout.align, Layout.append,
    Layout.position, padding, AnnotationOffsets.refListBytes, AnnotationOffsets.directoryBytes,
    offsetListBytes, memberOffsetsBytes, length_le32]

/-- The one annotation and the one set of it are written once, and both classes have them. -/
theorem writesOnce_and_reads_twoWithOne :
    let start : Layout := { base := 112, bytes := #[] }
    Header.size ≤ start.base ∧
      (∀ directory, some directory ∈ twoWithOne 0 1 →
        ∀ ref ∈ directory.memberRefs ++ directory.annotationRefs, exchanged.Renumbers ref) ∧
      ∃ written image,
        exchanged.writeAnnotations start (twoWithOne 0 1) = .ok written ∧
          written.items.layout.bytes = #[1, 1, 0] ∧
          written.sets.layout.bytes = #[1, 1, 0, 0, 1, 0, 0, 0, 112, 0, 0, 0, 0, 0, 0, 0] ∧
          written.directories = [144, 0, 160] ∧
          written.layout.Within image ∧
          image.size = 184 ∧
          ∀ (i : Nat) (directory : Option AnnotationDirectory),
            (twoWithOne 1 0)[i]? = some directory →
              ∃ offset,
                written.directories[i]? = some offset ∧
                  atOffset offset (directoryAt image) = .ok directory := by
  intro start
  have header : Header.size ≤ start.base := by decide
  have covers :
      ∀ directory, some directory ∈ twoWithOne 0 1 →
        ∀ ref ∈ directory.memberRefs ++ directory.annotationRefs, exchanged.Renumbers ref := by
    have checked :
        (((twoWithOne 0 1).filterMap id).flatMap fun directory =>
          directory.memberRefs ++ directory.annotationRefs).forM exchanged.checkOperand =
          .ok () := by
      cbv
    exact fun directory listed ref refers =>
      checkOperand_eq_ok_iff.mp (forM_eq_ok_iff.mp checked ref
        (List.mem_flatMap.mpr ⟨directory, List.mem_filterMap.mpr ⟨_, listed, rfl⟩, refers⟩))
  have renumbered :
      (twoWithOne 0 1).map (·.map fun directory => (directory.mapRefs exchanged.total).arranged) =
        twoWithOne 1 0 := by
    cbv
  obtain ⟨written, writes, -, -, reads⟩ := writesOnce_and_reads exchanged header covers
  obtain ⟨items, sets, directories, base, size⟩ := laidOut_twoWithOne
  have isWritten : written = AnnotationPasses.laidOut start (twoWithOne 1 0) := by
    rw [← renumbered]
    exact Except.ok.inj (writes.symm.trans (writeAnnotations_eq_ok covers start))
  subst isWritten
  let image : Bytes :=
    (List.replicate 112 0 ++
      (AnnotationPasses.laidOut start (twoWithOne 1 0)).layout.bytes.toList).toArray
  have within : (AnnotationPasses.laidOut start (twoWithOne 1 0)).layout.Within image := by
    rw [Layout.Within, base]
    exact Holds.iff_exists.mpr ⟨List.replicate 112 0, [], by simp [image], by simp⟩
  have imageSize : image.size = 184 := by
    simp [image, size, start]
  refine ⟨header, covers, _, image, writes, items, sets, directories, within, imageSize, ?_⟩
  intro i directory found
  obtain ⟨offset, beside, -, readsBack⟩ :=
    reads image within (by omega) i directory (renumbered ▸ found)
  exact ⟨offset, beside, readsBack⟩

end NewNumbers

/-! ## The annotations of a container -/

/-- What is looked up gets the numbers that the renumbered directory refers to, in its order. -/
theorem NewNumbers.map_renumber_lookUps
    (numbers : NewNumbers)
    (directory : AnnotationDirectory) :
    ((numbers.prepared directory).sets.flatMap (AnnotationSet.lookUps numbers.total)).map
        (Reference.renumber numbers.total) =
      (directory.mapRefs numbers.total).annotationRefs := by
  rw [AnnotationDirectory.annotationRefs, ← numbers.mapRefs_prepared,
    AnnotationDirectory.sets_mapSets, List.flatMap_map, List.map_flatMap]
  refine List.flatMap_congr fun set _ => ?_
  rw [AnnotationSet.lookUps, AnnotationSet.mapRefs, List.flatMap_map, List.map_flatMap]
  exact List.flatMap_congr fun item _ => item.map_renumber_lookUps numbers.total

namespace Container

/-- Writing the annotations of a container in passes checks the references that renumbering in place
does, in the same order, and lays out what the renumbered container in order has. -/
theorem writeAnnotations_newNumbers
    {container : Container}
    {renumbering : Renumbering}
    (covers : renumbering.Covers container)
    (start : Layout) :
    let numbered := container.renumbered renumbering
    (container.newNumbers renumbering).writeAnnotations start
        (container.classes.map (·.annotations)) =
      (numbered.checkRefs
          (numbered.directories.flatMap (·.memberRefs) ++
            numbered.directories.flatMap (·.annotationRefs))).mapError AnnotationError.refused >>=
        fun _ =>
          .ok (AnnotationPasses.laidOut start
            (numbered.arranged.classes.map (·.annotations))) := by
  intro numbered
  let f := renumbering.map
  have sameNumbers : (container.newNumbers renumbering).total = f := total_newNumbers covers
  have sameDirectories :
      numbered.directories = container.directories.map (AnnotationDirectory.mapRefs f) := by
    show (container.classes.map (ClassDef.mapRefs f)).filterMap (·.annotations) = _
    rw [directories, List.filterMap_map, List.map_filterMap]
    rfl
  have sameArranged :
      numbered.arranged.classes.map (·.annotations) =
        (container.classes.map (·.annotations)).map
          (·.map (container.newNumbers renumbering).newDirectory) := by
    have newDirectory :
        (container.newNumbers renumbering).newDirectory =
          AnnotationDirectory.arranged ∘ AnnotationDirectory.mapRefs f := by
      rw [← sameNumbers]
      rfl
    show ((container.classes.map (ClassDef.mapRefs f)).map ClassDef.arranged).map _ = _
    rw [List.map_map, List.map_map, List.map_map, newDirectory]
    exact List.map_congr_left fun classDef _ => Option.map_map _ _ _
  have listed : (container.classes.map (·.annotations)).filterMap id = container.directories := by
    rw [List.filterMap_map]
    rfl
  have refs :
      (container.directories.flatMap (·.memberRefs) ++
          (container.directories.flatMap fun directory =>
            ((container.newNumbers renumbering).prepared directory).sets).flatMap
              (AnnotationSet.lookUps (container.newNumbers renumbering).total)).map
          (Reference.renumber f) =
        (container.directories.map (AnnotationDirectory.mapRefs f)).flatMap (·.memberRefs) ++
          (container.directories.map (AnnotationDirectory.mapRefs f)).flatMap
            (·.annotationRefs) := by
    rw [List.map_append, List.flatMap_assoc, List.map_flatMap, List.map_flatMap, List.flatMap_map,
      List.flatMap_map, ← sameNumbers]
    exact congrArg₂ _
      (List.flatMap_congr fun directory _ => AnnotationDirectory.memberRefs_mapRefs.symm)
      (List.flatMap_congr fun directory _ => NewNumbers.map_renumber_lookUps _ directory)
  rw [NewNumbers.writeAnnotations_eq, sameArranged, sameDirectories,
    AnnotationDirectory.allSets_map, listed, ← checkRefs_renumber covers, refs]

/-- The annotations of an image are those that the passes leave behind. -/
theorem data_annotations (container : Container) :
    let passes :=
      AnnotationPasses.laidOut container.data.typeLists.layout
        (container.classes.map (·.annotations))
    passes.items.layout = container.data.items.layout ∧
      passes.sets.layout = container.data.sets.layout ∧
      passes.offsets = container.data.annotations ∧
      passes.directories = container.data.directories.offsets ∧
      passes.layout = container.data.directories.layout := by
  intro passes
  have keys :
      AnnotationPasses.itemKeys (container.classes.map (·.annotations)) =
        container.annotationSets.flatMap fun set => List.map AnnotationItem.bytes set := by
    rw [AnnotationPasses.itemKeys, WrittenIn.allSets_annotations]
  have items :
      passes =
        AnnotationPasses.behindItems
          { layout := container.data.items.layout, offsets := container.data.annotations.items }
          (container.classes.map (·.annotations)) := by
    show AnnotationPasses.behindItems _ _ = _
    rw [keys, ← container.data.typeLists.layout.align_one]
    rfl
  rw [items]
  simp only [AnnotationPasses.behindItems, AnnotationPasses.setKeys,
    AnnotationPasses.laidOutRefLists, WrittenIn.allSets_annotations, WrittenIn.refLists_annotations,
    WrittenIn.pieces_annotations]
  exact ⟨trivial, rfl, rfl, rfl, rfl⟩

end Container

end DexPatch
