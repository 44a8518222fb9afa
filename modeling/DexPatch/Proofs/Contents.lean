import Mathlib.Data.List.Nodup
import DexPatch.Proofs.Items
import DexPatch.Proofs.RoundTrip

namespace DexPatch

/-!
# What an image is made of

An image of a container is its header, the entries of its tables, the pieces
of its data and its map, and nothing but padding between them.  The sections
that its map lists are those of these regions that have items.
-/

/-! ## Tables and data -/

namespace Container

variable {container : Container}

/-- The entries of each table. -/
def tableEntries (container : Container) : List (SectionKind × List (List UInt8)) :=
  [(.stringIds, container.data.strings.offsets.map le32),
    (.typeIds, container.types.toList.map fun string => le32 string.toNat),
    (.protoIds, container.protos.toList.map container.protoEntry),
    (.fieldIds, container.fields.toList.map FieldId.entryBytes),
    (.methodIds, container.methods.toList.map MethodId.entryBytes),
    (.classDefs, container.classParts.map container.classEntry),
    (.callSiteIds, (container.data.arrays.offsets.take container.callSites.length).map le32),
    (.methodHandles, container.methodHandles.map MethodHandle.entryBytes)]

theorem flatten_tableEntries (container : Container) :
    (container.tableEntries.flatMap (·.2)).flatten =
      (container.tableBytes container.data).toList := by
  rw [toList_tableBytes]
  simp [tableEntries, List.flatMap_def]

theorem tabulated_tableEntries (container : Container) :
    List.Forall₂ Tabulated container.tables container.tableEntries := by
  refine .cons ⟨rfl, ?_, List.forall_mem_map.mpr fun _ _ => length_le32 _, rfl⟩ <|
    .cons ⟨rfl, ?_, List.forall_mem_map.mpr fun _ _ => length_le32 _, rfl⟩ <|
    .cons ⟨rfl, ?_, List.forall_mem_map.mpr fun _ _ => length_protoEntry _ _, rfl⟩ <|
    .cons ⟨rfl, ?_, List.forall_mem_map.mpr fun _ _ => length_fieldEntry _, rfl⟩ <|
    .cons ⟨rfl, ?_, List.forall_mem_map.mpr fun _ _ => length_methodEntry _, rfl⟩ <|
    .cons ⟨rfl, ?_, List.forall_mem_map.mpr fun _ _ => length_classEntry _ _, rfl⟩ <|
    .cons ⟨rfl, ?_, List.forall_mem_map.mpr fun _ _ => length_le32 _, rfl⟩ <|
    .cons ⟨rfl, ?_, List.forall_mem_map.mpr fun _ _ => length_handleEntry _, rfl⟩ .nil
  all_goals
    simp [length_stringOffsets, length_classParts, length_arrayOffsets]

/-- The regions of the data, each with the pieces that a stage places. -/
def dataRegions (container : Container) : List Region :=
  [.ofPieces .stringData (container.strings.toList.map fun string => some string.bytes)
      container.data.strings.offsets,
    .ofPieces .typeLists (container.typeLists.map fun types => some (typeListBytes types))
      container.data.typeLists.offsets,
    .ofPieces .annotations (container.annotationItems.map some) container.data.items.offsets,
    .ofPieces .annotationSets
      ((container.setEntries container.data.annotations.items).map fun offsets =>
        some (offsetListBytes offsets))
      container.data.sets.offsets,
    .ofPieces .annotationSetRefLists
      (container.parameterSets.flatten.map fun sets =>
        some (container.data.annotations.refListBytes sets))
      container.data.refLists.offsets,
    .ofPieces .annotationDirectories
      (container.directoryPieces container.data.annotations container.data.refLists.offsets)
      container.data.directories.offsets,
    .ofPieces .debugInfo container.debugPieces container.data.debug.offsets,
    .ofPieces .bodies (container.bodyPieces container.data.debug.offsets)
      container.data.bodies.offsets,
    .ofPieces .classData (container.classDataPieces container.data.bodies.offsets)
      container.data.classData.offsets,
    .ofPieces .encodedArrays container.arrayPieces container.data.arrays.offsets,
    .ofPieces .hiddenApi [container.hiddenApi.map (·.toList)] container.data.hiddenApi.offsets]

/-- The stages of the data lead from its start to the hidden-API section. -/
theorem leads_data (container : Container) :
    Layout.Leads { base := container.dataOffset, bytes := #[] } container.dataRegions
      (container.data.stages.map (·.entry)) container.data.hiddenApi.layout := by
  have strings := Layout.leads_stage { base := container.dataOffset, bytes := #[] } .stringData _
    (show container.data.strings = _ from rfl)
  have typeLists := Layout.leads_stage container.data.strings.layout .typeLists _
    (show container.data.typeLists = _ from rfl)
  have items := Layout.leads_stage container.data.typeLists.layout .annotations _
    (show container.data.items = _ from rfl)
  have sets := Layout.leads_stage container.data.items.layout .annotationSets _
    (show container.data.sets = _ from rfl)
  have refLists := Layout.leads_stage container.data.sets.layout .annotationSetRefLists _
    (show container.data.refLists = _ from rfl)
  have directories := Layout.leads_stage container.data.refLists.layout .annotationDirectories _
    (show container.data.directories = _ from rfl)
  have debug := Layout.leads_stage container.data.directories.layout .debugInfo _
    (show container.data.debug = _ from rfl)
  have bodies := Layout.leads_stage container.data.debug.layout .bodies _
    (show container.data.bodies = _ from rfl)
  have classData := Layout.leads_stage container.data.bodies.layout .classData _
    (show container.data.classData = _ from rfl)
  have arrays := Layout.leads_stage container.data.classData.layout .encodedArrays _
    (show container.data.arrays = _ from rfl)
  have hiddenApi := Layout.leads_stage container.data.arrays.layout .hiddenApi
    [container.hiddenApi.map (·.toList)] (show container.data.hiddenApi = _ from rfl)
  exact strings.trans <| typeLists.trans <| items.trans <| sets.trans <| refLists.trans <|
    directories.trans <| debug.trans <| bodies.trans <| classData.trans <| arrays.trans hiddenApi

/-! ## The image as a whole -/

/-- The header as the only item of its kind. -/
def headerRegion (container : Container) : Region where
  kind := .header
  items := [{ offset := 0, bytes := container.image.toList.take Header.size }]

/-- The map as the only item of its kind. -/
def mapRegion (container : Container) : Region where
  kind := .mapList
  items :=
    [{ offset := container.data.layout.position
       bytes := mapBytes (container.sections container.data) }]

/-- The header and the tables. -/
def frontRegions (container : Container) : List Region :=
  container.headerRegion :: tableRegions Header.size container.tableEntries

/-- The data and the map. -/
def backRegions (container : Container) : List Region :=
  container.dataRegions ++ [container.mapRegion]

/-- All regions of the image of a container, in the order in which they stand. -/
def regions (container : Container) : List Region :=
  container.frontRegions ++ container.backRegions

/-- What there is to tell of the header and the tables, also of empty ones. -/
def frontSections (container : Container) : List Section :=
  { kind := .header, count := 1, offset := 0 } :: tableSections Header.size container.tables

/-- What there is to tell of the data and the map, also of empty stages. -/
def backSections (container : Container) : List Section :=
  container.data.stages.map (·.entry) ++
    [{ kind := .mapList, count := 1, offset := container.data.layout.position }]

/-- The header stands in front of everything. -/
theorem held_headerRegion (container : Container) :
    RegionsHeld container.image 0 [container.headerRegion]
      [{ kind := .header, count := 1, offset := 0 }] Header.size := by
  have inside := (tablesHeld_iff.mp container.writtenIn_image.tables).le_size
  have length : (container.image.toList.take Header.size).length = Header.size := by
    rw [List.length_take_of_le]
    simp only [Header.size, Array.length_toList]
    omega
  have chained : Chained 0 container.headerRegion.items Header.size := by
    refine ⟨Behind.refl 0, ?_⟩
    show Behind (0 + (container.image.toList.take Header.size).length) Header.size
    rw [length, Nat.zero_add]
    exact Behind.refl _
  have all := Holds.whole container.image
  rw [← List.take_append_drop Header.size container.image.toList] at all
  exact .single chained (List.forall_mem_singleton.mpr all.left)
    (List.forall_mem_singleton.mpr rfl) ⟨rfl, rfl, fun _ => rfl⟩

/-- The header and the tables stand in front of the data. -/
theorem held_frontRegions (container : Container) :
    RegionsHeld container.image 0 container.frontRegions container.frontSections
      container.dataOffset := by
  have length := container.length_tableBytes
  have whole := tablesHeld_iff.mp container.writtenIn_image.tables
  rw [← flatten_tableEntries] at length whole
  have tables := regionsHeld_tables container.tabulated_tableEntries whole
  rw [length] at tables
  exact container.held_headerRegion.append tables

/-- The data and the map stand behind the tables, up to the end of the image. -/
theorem held_backRegions (container : Container) :
    RegionsHeld container.image container.dataOffset container.backRegions container.backSections
      container.image.size := by
  have written := container.writtenIn_image
  have data := container.leads_data.regions container.image
    (written.data.of_extends (Layout.extends_align _ 4))
  refine data.append (.single ⟨?_, ?_⟩ ?_ ?_ ⟨rfl, rfl, fun _ => rfl⟩)
  · exact container.data.hiddenApi.layout.behind_align .mapList
  · rw [written.size]
    exact Behind.refl _
  · exact List.forall_mem_singleton.mpr written.map
  · exact List.forall_mem_singleton.mpr
      (container.data.hiddenApi.layout.position_align_mod (by decide))

theorem held_regions (container : Container) :
    RegionsHeld container.image 0 container.regions
      (container.frontSections ++ container.backSections) container.image.size :=
  container.held_frontRegions.append container.held_backRegions

/-- The map lists the regions that have items. -/
theorem sections_eq_map_entry (container : Container) :
    container.sections container.data = (Region.present container.regions).map Region.entry := by
  rw [← Region.filter_eq_map_entry container.held_regions.listed, sections]
  simp [frontSections, backSections]

end Container

/-! ## No item is empty -/

theorem le16_ne_nil (n : Nat) : le16 n ≠ [] :=
  List.ne_nil_of_length_pos (by simp)

theorem le32_ne_nil (n : Nat) : le32 n ≠ [] :=
  List.ne_nil_of_length_pos (by simp)

theorem Leb128.unsigned_ne_nil (value : UInt32) : unsigned value ≠ [] :=
  List.ne_nil_of_length_pos (length_unsigned_pos value)

namespace Region

/-- No item is empty if no piece is. -/
theorem filled_ofPieces
    {kind : SectionKind}
    {pieces : List (Option (List UInt8))}
    {offsets : List Nat}
    (filled : some [] ∉ pieces) :
    ∀ item ∈ (ofPieces kind pieces offsets).items, item.bytes ≠ [] := by
  intro item member empty
  obtain ⟨⟨piece, offset⟩, beside, shape⟩ := List.mem_filterMap.mp member
  obtain ⟨bytes, rfl, rfl⟩ := Option.map_eq_some_iff.mp shape
  exact filled (empty ▸ (List.of_mem_zip beside).1)

/-- No item of a table is empty if no entry is. -/
theorem filled_tableRegions
    {offset : Nat}
    {entries : List (SectionKind × List (List UInt8))}
    (filled : ∀ table ∈ entries, [] ∉ table.2) :
    ∀ region ∈ tableRegions offset entries, ∀ item ∈ region.items, item.bytes ≠ [] := by
  induction entries generalizing offset with
  | nil =>
      exact nofun
  | cons table rest inductionHypothesis =>
      obtain ⟨first, others⟩ := List.forall_mem_cons.mp filled
      refine List.forall_mem_cons.mpr ⟨filled_ofPieces ?_, inductionHypothesis others⟩
      simpa using first

end Region

namespace Container

variable {container : Container}

theorem filled_tableEntries : ∀ table ∈ container.tableEntries, [] ∉ table.2 := by
  simp [tableEntries, -List.map_take, le16_ne_nil, le32_ne_nil, protoEntry, Proto.entryBytes,
    FieldId.entryBytes, MethodId.entryBytes, classEntry, ClassDef.entryBytes,
    MethodHandle.entryBytes]

/-- No piece of the data is empty unless the hidden-API section is. -/
theorem filled_dataRegions (hiddenApi : container.hiddenApi ≠ some #[]) :
    ∀ region ∈ container.dataRegions, ∀ item ∈ region.items, item.bytes ≠ [] := by
  simp only [dataRegions, List.forall_mem_cons]
  refine ⟨Region.filled_ofPieces ?_, Region.filled_ofPieces ?_, Region.filled_ofPieces ?_,
    Region.filled_ofPieces ?_, Region.filled_ofPieces ?_, Region.filled_ofPieces ?_,
    Region.filled_ofPieces ?_, Region.filled_ofPieces ?_, Region.filled_ofPieces ?_,
    Region.filled_ofPieces ?_, Region.filled_ofPieces ?_, nofun⟩
  · simp [PoolString.bytes]
  · simp [typeListBytes, le32_ne_nil]
  · simp [annotationItems, mem_distinct_iff, AnnotationItem.bytes]
  · simp [offsetListBytes, le32_ne_nil]
  · simp [AnnotationOffsets.refListBytes, offsetListBytes, le32_ne_nil]
  · simp [directoryPieces, AnnotationOffsets.directoryBytes, le32_ne_nil]
  · simp [debugPieces, Option.bind_eq_some_iff, DebugInfo.bytes]
  · simp [bodyPieces, Body.bytes, le32_ne_nil]
  · simp [classDataPieces, ClassData.bytes, Leb128.unsigned_ne_nil]
  · simp [arrayPieces, Value.arrayBytes, Leb128.unsigned_ne_nil]
  · simpa using hiddenApi

end Container

/-! ## No item is written twice -/

/-- Numbers that fit so many bytes are told apart by them. -/
theorem eq_of_littleEndian_eq
    (width : Nat)
    {first second : Nat}
    (firstFits : first < capacity width)
    (secondFits : second < capacity width)
    (same : littleEndian width first = littleEndian width second) :
    first = second := by
  have digits := congrArg ofLittleEndian same
  rwa [ofLittleEndian_littleEndian, ofLittleEndian_littleEndian, Nat.mod_eq_of_lt firstFits,
    Nat.mod_eq_of_lt secondFits] at digits

/-- Elements written in pieces of one width are told apart by them if each is by its piece. -/
theorem eq_of_flatMap_eq
    {α : Type}
    {bytes : α → List UInt8}
    {width : Nat}
    (wide : ∀ x, (bytes x).length = width)
    (positive : 0 < width)
    {first second : List α}
    (apart : ∀ x ∈ first, ∀ y ∈ second, bytes x = bytes y → x = y)
    (same : first.flatMap bytes = second.flatMap bytes) :
    first = second := by
  induction first generalizing second with
  | nil =>
      have length := congrArg List.length same
      rw [Container.length_flatMap_of_width wide, Container.length_flatMap_of_width wide,
        List.length_nil,
        Nat.zero_mul, eq_comm, Nat.mul_eq_zero] at length
      exact (List.length_eq_zero_iff.mp (length.resolve_right (by omega))).symm
  | cons x first inductionHypothesis =>
      cases second with
      | nil =>
          have length := congrArg List.length same
          rw [List.flatMap_cons, List.length_append, wide] at length
          simp at length
          omega
      | cons y second =>
          rw [List.flatMap_cons, List.flatMap_cons] at same
          obtain ⟨head, tail⟩ := List.append_inj same ((wide x).trans (wide y).symm)
          rw [apart x List.mem_cons_self y List.mem_cons_self head,
            inductionHypothesis (fun x isFirst y isSecond =>
              apart x (List.mem_cons_of_mem _ isFirst) y (List.mem_cons_of_mem _ isSecond)) tail]

namespace Container

variable {container : Container} {image : Bytes}

/-- No two of the lists of types are written alike if their types fit 16 bits. -/
theorem nodup_typeListBytes
    (brief : ∀ types ∈ container.typeLists, ∀ type ∈ types, type.toNat < 65536) :
    (container.typeLists.map typeListBytes).Nodup := by
  refine (nodup_distinct _).map_on fun first isFirst second isSecond same => ?_
  refine eq_of_flatMap_eq (fun type : UInt32 => length_le16 type.toNat) (by decide) ?_
    (List.append_inj_right same (by simp))
  intro x inFirst y inSecond sameType
  exact UInt32.toNat_inj.mp
    (eq_of_littleEndian_eq 2 (brief first isFirst x inFirst) (brief second isSecond y inSecond)
      sameType)

/-- No two of the sets of annotations are written alike in an image that 32 bits can count. -/
theorem nodup_setBytes
    (written : container.WrittenIn image)
    (fits : image.size < 4294967296) :
    ((container.setEntries container.data.annotations.items).map offsetListBytes).Nodup := by
  have near {entries : List Nat}
      (member : entries ∈ container.setEntries container.data.annotations.items)
      {offset : Nat}
      (inside : offset ∈ entries) :
      offset < 4294967296 := by
    obtain ⟨set, isSet, rfl⟩ := List.mem_map.mp (mem_distinct_iff.mp member)
    obtain ⟨item, isItem, rfl⟩ := List.mem_map.mp inside
    have held := written.holds_annotationItem
      (mem_distinct (List.mem_flatMap.mpr ⟨set, isSet, List.mem_map_of_mem isItem⟩))
    have bounded := held.le_size
    omega
  refine (nodup_distinct _).map_on fun first isFirst second isSecond same => ?_
  refine eq_of_flatMap_eq length_le32 (by decide) ?_ (List.append_inj_right same (by simp))
  intro x inFirst y inSecond sameOffset
  exact eq_of_littleEndian_eq 4 (near isFirst inFirst) (near isSecond inSecond) sameOffset

end Container

end DexPatch
