import DexPatch.Proofs.Contents
import DexPatch.Proofs.Encoding

namespace DexPatch

/-!
# What the header and the map tell

The header of an image tells how long the image is, where its tables are and
where its data starts, and carries two digests of what follows them.  The map
is the last item and lists the regions that have items.  All that they tell is
so for every image that 32 bits can measure.
-/

/-- The kinds of regions in the order in which they stand in an image. -/
def SectionKind.inOrder : List SectionKind :=
  [.header, .stringIds, .typeIds, .protoIds, .fieldIds, .methodIds, .classDefs, .callSiteIds,
    .methodHandles, .stringData, .typeLists, .annotations, .annotationSets,
    .annotationSetRefLists, .annotationDirectories, .debugInfo, .bodies, .classData,
    .encodedArrays, .hiddenApi, .mapList]

/-- Whether equal items of a kind share one place. -/
def SectionKind.isShared : SectionKind → Bool
  | .typeLists | .annotations | .annotationSets => true
  | _ => false

/-- An image is made of the items of some regions. -/
structure MadeOf (image : Bytes) (regions : List Region) : Prop where
  kinds : regions.map Region.kind = SectionKind.inOrder
  filled : ∀ region ∈ regions, ∀ item ∈ region.items, item.bytes ≠ []
  held : ∀ region ∈ regions, ∀ item ∈ region.items, Holds image item.offset item.bytes
  /-- The items fill the image, one behind the other, with nothing but padding between them. -/
  chained : Chained 0 (regions.flatMap Region.items) image.size
  aligned : ∀ region ∈ regions, ∀ item ∈ region.items, item.offset % region.kind.unit = 0
  /-- No item of a kind that is shared is there twice. -/
  shared :
    ∀ region ∈ regions, region.kind.isShared = true → (region.items.map Item.bytes).Nodup

/-- The header of an image tells of the image and of its tables and its data. -/
structure HeaderTells (image : Bytes) (regions : List Region) : Prop where
  fileSize : natAt image 0x20 = .ok image.size
  digest : Holds image 0x0c (Digest.sha1 (image.extract 0x20 image.size))
  checksum : Holds image 0x08 (le32 (checksum image).toNat)
  /-- Each of the six tables of ids has its count and its start, zero if it is empty. -/
  tables :
    ∀ (i : Nat) (region : Region), i < 6 → regions[i + 1]? = some region →
      natAt image (0x38 + i * 8) = .ok region.items.length ∧
        natAt image (0x3c + i * 8) = .ok region.start
  /-- The data starts behind the eight tables and reaches to the end of the image. -/
  data :
    ∃ size offset,
      natAt image 0x68 = .ok size ∧
        natAt image 0x6c = .ok offset ∧
        offset + size = image.size ∧
        Chained 0 ((regions.take 9).flatMap Region.items) offset ∧
        Chained offset ((regions.drop 9).flatMap Region.items) image.size

/-- A map at an offset lists the regions of an image that have items. -/
structure MapTells (image : Bytes) (regions : List Region) (offset : Nat) : Prop where
  found : natAt image 0x34 = .ok offset
  aligned : offset % 4 = 0
  count : natAt image offset = .ok (Region.present regions).length
  entries :
    ∀ (i : Nat) (region : Region), (Region.present regions)[i]? = some region →
      u16At image (offset + 4 + i * 12) = .ok (UInt16.ofNat region.kind.code) ∧
        natAt image (offset + 4 + i * 12 + 4) = .ok region.items.length ∧
        natAt image (offset + 4 + i * 12 + 8) = .ok region.start
  /-- Nothing stands behind the map. -/
  last : offset + 4 + (Region.present regions).length * 12 = image.size
  once : ((Region.present regions).map Region.kind).Nodup
  ascending : ((Region.present regions).map Region.start).Pairwise (· < ·)

/-- An image made of some regions, with a header and a map that tell of them. -/
structure Described (image : Bytes) (regions : List Region) : Prop where
  contents : MadeOf image regions
  header : HeaderTells image regions
  map : ∃ offset, MapTells image regions offset

/-! ## Digests -/

/-- What stands behind the front of some data can be cut out. -/
theorem extract_of_toList
    {data : Bytes}
    {front back : List UInt8}
    (shape : data.toList = front ++ back) :
    data.extract front.length data.size = back.toArray := by
  have size : data.size = front.length + back.length := by
    rw [← Array.length_toList, shape, List.length_append]
  rw [← Array.toList_inj, Array.toList_extract, List.extract_eq_take_drop, shape,
    List.drop_left' rfl, List.take_of_length_le (by omega)]

/-- A sealed image has the digests of what follows them. -/
theorem digests_sealed (version : Version) (body : Bytes) :
    Holds (sealed version body) 0x0c
        (Digest.sha1 ((sealed version body).extract 0x20 (sealed version body).size)) ∧
      Holds (sealed version body) 0x08 (le32 (checksum (sealed version body)).toNat) := by
  have shape := Container.toList_sealed version body
  have nameLength : (Header.magic ++ (version.bytes ++ [0])).length = 8 := rfl
  -- only the lengths of the parts in front matter from here on
  generalize Header.magic ++ (version.bytes ++ [0]) = name at shape nameLength
  generalize stored : (Digest.adler32 ((Digest.sha1 body).toArray ++ body)).toNat = sum at shape
  have signed : (sealed version body).extract 0x0c (sealed version body).size =
      (Digest.sha1 body).toArray ++ body := by
    have cut := extract_of_toList (shape.trans (List.append_assoc name _ _).symm)
    rw [List.length_append, nameLength, length_le32] at cut
    exact cut.trans (Array.toList_inj.mp (by simp))
  have rest : (sealed version body).extract 0x20 (sealed version body).size = body := by
    have cut := extract_of_toList (show (sealed version body).toList =
      (name ++ (le32 sum ++ Digest.sha1 body)) ++ body.toList by simpa using shape)
    rw [List.length_append, List.length_append, nameLength, length_le32, Container.length_sha1] at cut
    exact cut.trans Array.toArray_toList
  have whole := Holds.whole (sealed version body)
  simp only [shape, Holds.append_iff, nameLength, length_le32, Nat.zero_add, Nat.reduceAdd]
    at whole
  obtain ⟨-, sumHeld, digestHeld, -⟩ := whole
  rw [rest, checksum, signed, stored]
  exact ⟨digestHeld, sumHeld⟩

/-! ## Bounds and order -/

namespace MadeOf

variable {image : Bytes} {regions : List Region} {region : Region}

/-- A region has no more items than the image has bytes. -/
theorem length_le
    (made : MadeOf image regions)
    (member : region ∈ regions) :
    region.items.length ≤ image.size := by
  have filled : ∀ item ∈ regions.flatMap Region.items, item.bytes ≠ [] :=
    List.forall_mem_flatMap.mpr made.filled
  have all := made.chained.length_le filled
  obtain ⟨before, after, rfl⟩ := List.append_of_mem member
  simp only [List.flatMap_append, List.flatMap_cons, List.length_append] at all
  omega

/-- A region starts within the image. -/
theorem start_le
    (made : MadeOf image regions)
    (member : region ∈ regions) :
    region.start ≤ image.size := by
  have held := made.held region member
  obtain ⟨kind, items⟩ := region
  cases items with
  | nil =>
      exact Nat.zero_le _
  | cons item items =>
      have inside := (held item List.mem_cons_self).le_size
      show item.offset ≤ image.size
      omega

/-- The regions with items stand in the order of their starts. -/
theorem ascending (made : MadeOf image regions) :
    ((Region.present regions).map Region.start).Pairwise (· < ·) :=
  (made.chained.pairwise_offsets (List.forall_mem_flatMap.mpr made.filled)).sublist
    (Region.starts_sublist regions)

/-- No two regions with items are of one kind. -/
theorem once (made : MadeOf image regions) :
    ((Region.present regions).map Region.kind).Nodup := by
  have kinds : (regions.map Region.kind).Nodup := made.kinds ▸ by decide
  exact kinds.sublist (List.filter_sublist.map Region.kind)

end MadeOf

/-! ## Images of containers -/

namespace Container

variable {container : Container}

/-- The image of a container is made of its regions. -/
theorem madeOf_image
    (fits : container.image.size < 4294967296)
    (hiddenApi : container.hiddenApi ≠ some #[])
    (brief : ∀ types ∈ container.typeLists, ∀ type ∈ types, type.toNat < 65536) :
    MadeOf container.image container.regions := by
  have written := container.writtenIn_image
  have regionsHeld := container.held_regions
  have header : container.image.toList.take Header.size ≠ [] := by
    have inside := (tablesHeld_iff.mp written.tables).le_size
    refine List.ne_nil_of_length_pos ?_
    simp only [List.length_take, Header.size, Array.length_toList]
    omega
  have map : mapBytes (container.sections container.data) ≠ [] := by
    simp [mapBytes, le32_ne_nil]
  refine
    { kinds := rfl, held := regionsHeld.held, chained := regionsHeld.chained
      aligned := regionsHeld.aligned, filled := ?_, shared := ?_ }
  · refine List.forall_mem_append.mpr ⟨List.forall_mem_cons.mpr ⟨?_, ?_⟩,
      List.forall_mem_append.mpr ⟨filled_dataRegions hiddenApi, ?_⟩⟩
    · exact List.forall_mem_singleton.mpr header
    · exact Region.filled_tableRegions filled_tableEntries
    · exact List.forall_mem_singleton.mpr (List.forall_mem_singleton.mpr map)
  · intro region member isShared
    have sharedRegions :
        container.regions.filter (fun region => region.kind.isShared) =
          (container.dataRegions.drop 1).take 3 := rfl
    have listed : region ∈ (container.dataRegions.drop 1).take 3 :=
      sharedRegions ▸ List.mem_filter.mpr ⟨member, isShared⟩
    have laidOut := container.laidOut
    simp only [dataRegions, List.drop_succ_cons, List.drop_zero, List.take_succ_cons,
      List.take_zero, List.mem_cons, List.not_mem_nil, or_false] at listed
    rcases listed with rfl | rfl | rfl
    · rw [Region.bytes_ofPieces laidOut.typeLists.1]
      simpa using nodup_typeListBytes brief
    · rw [Region.bytes_ofPieces laidOut.items.1]
      simpa [annotationItems] using nodup_distinct _
    · rw [Region.bytes_ofPieces laidOut.sets.1]
      simpa using nodup_setBytes written fits

/-- The header of an image of a container tells of its regions. -/
theorem headerTells_image
    (fits : container.image.size < 4294967296)
    (made : MadeOf container.image container.regions) :
    HeaderTells container.image container.regions := by
  have written := container.writtenIn_image
  obtain ⟨digest, checksum⟩ := digests_sealed container.version container.unsealed
  have fields := written.fields
  simp only [headerFields, Holds.append_iff, List.length_append, length_le32, and_assoc,
    Nat.reduceAdd] at fields
  obtain ⟨fileSize, -, -, -, -, -, -, dataSize, dataStart⟩ := fields
  have inFront := container.held_backRegions.chained.le
  refine
    { fileSize := natAt_of_holds fits fileSize, digest, checksum, tables := ?_, data := ?_ }
  · intro i region isTable found
    have member := List.mem_of_getElem? found
    have table : (tableRegions Header.size container.tableEntries)[i]? = some region := by
      rw [← found, regions, frontRegions, List.cons_append, List.getElem?_cons_succ,
        List.getElem?_append_left (show i < 8 by omega)]
    cases container.held_frontRegions.listed with
    | cons _ listed =>
        obtain ⟨entry, isEntry, listedAs⟩ := Region.ListedAs.getElem? listed table
        have held := tableHeader_of_writtenIn written i (by
          rw [List.getElem?_take_of_lt isTable, isEntry])
        rw [listedAs.start_eq, listedAs.count] at held
        have few := made.length_le member
        have near := made.start_le member
        exact ⟨natAt_of_holds (by omega) held.left, natAt_of_holds (by omega)
          (held.right.congr_offset (by rw [length_le32]; omega))⟩
  · refine ⟨container.image.size - container.dataOffset, container.dataOffset,
      natAt_of_holds (by omega) dataSize, natAt_of_holds (by omega) dataStart, by omega,
      container.held_frontRegions.chained, container.held_backRegions.chained⟩

/-- The map of an image of a container lists its regions that have items. -/
theorem mapTells_image
    (fits : container.image.size < 4294967296)
    (made : MadeOf container.image container.regions) :
    MapTells container.image container.regions container.data.layout.position := by
  have written := container.writtenIn_image
  have fields := written.fields
  simp only [headerFields, Holds.append_iff, List.length_append, length_le32, and_assoc,
    Nat.reduceAdd] at fields
  obtain ⟨-, -, -, -, -, found, -⟩ := fields
  have map := written.map
  have size := written.size
  rw [length_mapBytes] at size
  rw [sections_eq_map_entry] at map size
  rw [List.length_map] at size
  have count := map.left
  rw [List.length_map] at count
  refine
    { found := natAt_of_holds (by omega) found
      aligned := Layout.position_align_mod _ (by decide)
      count := natAt_of_holds (by omega) count
      entries := ?_, last := by omega, once := made.once, ascending := made.ascending }
  intro i region listed
  obtain ⟨inside, rfl⟩ := List.getElem?_eq_some_iff.mp listed
  have member := (List.mem_filter.mp (List.getElem_mem inside)).1
  have bound : i < ((Region.present container.regions).map Region.entry).length := by
    rwa [List.length_map]
  have entry := map.right.flatMap_getElem_of_width 12 (fun _ _ => rfl) bound
  rw [List.getElem_map, length_le32] at entry
  obtain ⟨kind, items, start⟩ := Section.fields_of_holds entry
  have few := made.length_le member
  have near := made.start_le member
  exact ⟨kind, natAt_of_holds (Nat.lt_of_le_of_lt few fits) items,
    natAt_of_holds (Nat.lt_of_le_of_lt near fits) start⟩

/-- The tables of the canonical form are as long as those of the container. -/
theorem tables_canonical (container : Container) :
    container.canonical.tables = container.tables := by
  have strings := container.poolSize_canonical .string
  have types := container.poolSize_canonical .type
  have protos := container.poolSize_canonical .proto
  have fields := container.poolSize_canonical .field
  have methods := container.poolSize_canonical .method
  have callSites := container.poolSize_canonical .callSite
  have methodHandles := container.poolSize_canonical .methodHandle
  have classes : container.canonical.classes.length = container.classes.length := by
    rw [classes_canonical, List.length_map]
  simp only [poolSize] at strings types protos fields methods callSites methodHandles
  rw [tables, tables, strings, types, protos, fields, methods, classes, callSites, methodHandles]

/-- The tables among the regions of an image are as long as is told of them. -/
theorem lengths_tables (container : Container) :
    ((container.regions.drop 1).take 8).map (fun region => region.items.length) =
      container.tables.map (·.2.1) := by
  have counts := Region.ListedAs.map_count container.held_frontRegions.listed
  exact congrArg List.tail counts

/-! ## A container whose parts share places -/

/-- Two classes with one interface and one annotation each, both the same, and a hidden-API
section. -/
def sharing : Container :=
  let annotations : AnnotationDirectory :=
    { ofClass := some [{ visibility := 1, type := 1, elements := [] }]
      ofFields := [], ofMethods := [], ofParameters := [] }
  let classDef (type : UInt32) : ClassDef :=
    { type, access := 1, superclass := none, interfaces := [1], sourceFile := none
      annotations := some annotations, data := none, staticValues := none }
  { empty with
    strings :=
      #[{ data := [0x4c, 0x43, 0x3b], utf16Length := 3 },
        { data := [0x4c, 0x42, 0x3b], utf16Length := 3 }]
    types := #[0, 1]
    classes := [classDef 0, classDef 1]
    hiddenApi := some #[0x05, 0, 0, 0, 0] }

theorem encode_sharing : sharing.encode = .ok sharing.canonical.image :=
  encode_of_checks (by cbv) (by cbv)

theorem size_sharing : sharing.canonical.image.size < 4294967296 :=
  size_image_lt (by cbv)

/-! ## Encoded containers -/

/-- What is encoded is described by its header and its map: it is made of the regions of the
canonical form, and the tables among them are as long as those of the container. -/
theorem described_of_encode
    {image : Bytes}
    (encoded : container.encode = .ok image)
    (fits : image.size < 4294967296)
    (hiddenApi : container.hiddenApi ≠ some #[]) :
    Described image container.canonical.regions ∧
      ((container.canonical.regions.drop 1).take 8).map (fun region => region.items.length) =
        container.tables.map (·.2.1) := by
  obtain ⟨rfl, representable⟩ := representable_of_encode encoded
  have brief :
      ∀ types ∈ container.canonical.typeLists, ∀ type ∈ types, type.toNat < 65536 := by
    intro types isList type isType
    obtain ⟨used, -⟩ := List.mem_filter.mp (mem_distinct_iff.mp isList)
    rcases List.mem_append.mp used with parameters | interfaces
    · obtain ⟨proto, isProto, rfl⟩ := List.mem_map.mp parameters
      exact (representable.parameters proto (Array.mem_toList_iff.mp isProto) type isType).2 rfl
    · obtain ⟨classDef, isClass, rfl⟩ := List.mem_map.mp interfaces
      exact (representable.interfaces classDef isClass type isType).2 rfl
  have made := madeOf_image fits hiddenApi brief
  refine ⟨⟨made, headerTells_image fits made, _, mapTells_image fits made⟩, ?_⟩
  rw [lengths_tables, tables_canonical]

/-- The image of the container whose parts share places is described by its header and its map. -/
theorem described_of_encode_sharing :
    sharing.encode = .ok sharing.canonical.image ∧
      sharing.canonical.image.size < 4294967296 ∧
        sharing.hiddenApi ≠ some #[] ∧
          Described sharing.canonical.image sharing.canonical.regions ∧
            ((sharing.canonical.regions.drop 1).take 8).map (fun region => region.items.length) =
              sharing.tables.map (·.2.1) :=
  have hiddenApi : sharing.hiddenApi ≠ some #[] := by decide
  ⟨encode_sharing, size_sharing, hiddenApi,
    described_of_encode encode_sharing size_sharing hiddenApi⟩

/-- Two strings, one list of types, one annotation and one set of it for two directories, and the
hidden-API section. -/
example :
    sharing.canonical.dataRegions.map (fun region => region.items.length) =
      [2, 1, 1, 1, 0, 2, 0, 0, 0, 0, 1] := by
  cbv

end Container

end DexPatch
