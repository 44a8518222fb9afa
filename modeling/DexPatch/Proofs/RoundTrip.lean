import DexPatch.Proofs.Sections

namespace DexPatch

/-!
# Images read back

An image of a container that is in canonical order and representable is read
as that very container: each table, then the map, then the classes.
-/

namespace Container

/-- All numbers in the pools and the classes of a container are numbers of entries. -/
@[mk_iff]
structure InRange (container : Container) : Prop where
  types : ∀ string ∈ container.types, string.toNat < container.strings.size
  protos :
    ∀ proto ∈ container.protos, proto.InRange container.strings.size container.types.size
  fields : ∀ id ∈ container.fields, id.InRange container.strings.size container.types.size
  methods :
    ∀ id ∈ container.methods,
      id.InRange container.strings.size container.types.size container.protos.size
  classes : ∀ classDef ∈ container.classes, classDef.InRange container

instance (container : Container) : Decidable container.InRange :=
  decidable_of_iff _ (inRange_iff container).symm

/-- A container that is read back from its image, its hidden-API section apart: an image can hold
it, and every number in it is one that the reader takes. -/
@[mk_iff]
structure Readable (container : Container) : Prop extends InRange container where
  version : container.version.isSupported
  strings : ∀ string ∈ container.strings, 0 ∉ string.data
  bodies : container.ReadableBodies
  handles : ∀ handle ∈ container.methodHandles, handle.target.toNat < 65536

instance (container : Container) : Decidable container.Readable :=
  decidable_of_iff _ (readable_iff container).symm

namespace WrittenIn

variable {container : Container} {image : Bytes}

/-- No pool has more entries than the image has bytes. -/
theorem pools_fit (written : container.WrittenIn image) (fits : image.size < 4294967296) :
    container.strings.size < 4294967296 ∧ container.types.size < 4294967296 := by
  have strings := written.tables.strings.le_size
  have types := written.tables.types.le_size
  rw [length_flatMap_of_width length_le32, length_stringOffsets] at strings
  rw [length_flatMap_of_width (fun string : UInt32 => length_le32 string.toNat),
    Array.length_toList] at types
  omega

/-- The strings are read from their table. -/
theorem readStrings
    (written : container.WrittenIn image)
    (fits : image.size < 4294967296)
    (noZeros : ∀ string ∈ container.strings, 0 ∉ string.data) :
    readTable image 0x38 4 (fun offset => do stringAt image (← natAt image offset)) =
      .ok container.strings := by
  have held := written.tables.strings
  have inside := held.le_size
  rw [length_flatMap_of_width length_le32, length_stringOffsets] at inside
  have header :=
    tableHeader_of_writtenIn written 0
      (show _ = some { kind := .stringIds, count := container.strings.size, offset := 112 } from rfl)
  dsimp only at header
  have read :
      readTable image 0x38 4 (fun offset => do stringAt image (← natAt image offset)) =
        .ok container.strings.toList.toArray := by
    refine readTable_of_holds Array.length_toList header (by omega) (by decide) fun i bound => ?_
    have offsetBound : i < container.data.strings.offsets.length := by
      simpa [length_stringOffsets] using bound
    have beside :
        (some container.strings.toList[i].bytes, container.data.strings.offsets[i]) ∈
          List.zip (container.strings.toList.map fun string => some string.bytes)
            container.data.strings.offsets :=
      mem_zip_iff.mpr ⟨i, by simp [List.getElem?_eq_getElem bound],
        List.getElem?_eq_getElem offsetBound⟩
    obtain ⟨-, string⟩ := container.laidOut.strings.holds written.data beside
    have stringInside := string.le_size
    have entry := held.flatMap_getElem_of_width 4 (fun _ _ => by simp) offsetBound
    rw [bind_of_ok (natAt_of_holds (by omega) entry)]
    exact stringAt_of_holds (noZeros _ (Array.mem_toList_iff.mp (List.getElem_mem bound))) string
  simpa using read

/-- The types are read from their table. -/
theorem readTypes
    (written : container.WrittenIn image)
    (fits : image.size < 4294967296)
    (inRange : ∀ string ∈ container.types, string.toNat < container.strings.size) :
    readTable image 0x40 4
        (fun offset => do checked .string container.strings.size (← u32At image offset)) =
      .ok container.types := by
  have held := written.tables.types
  have inside := held.le_size
  rw [length_flatMap_of_width (fun string : UInt32 => length_le32 string.toNat),
    Array.length_toList] at inside
  have header :=
    tableHeader_of_writtenIn written 1
      (show _ = some
        { kind := .typeIds, count := container.types.size
          offset := 112 + container.strings.size * 4 } from rfl)
  dsimp only at header
  have read :
      readTable image 0x40 4
          (fun offset => do checked .string container.strings.size (← u32At image offset)) =
        .ok container.types.toList.toArray := by
    refine readTable_of_holds Array.length_toList header (by omega) (by omega) fun i bound => ?_
    have entry := held.flatMap_getElem_of_width 4 (fun _ _ => by simp) bound
    rw [bind_of_ok (u32At_toNat_of_holds entry)]
    exact checked_of_lt (inRange _ (Array.mem_toList_iff.mp (List.getElem_mem bound)))
  simpa using read

/-- The prototypes are read from their table, given the strings and the types. -/
theorem readProtos
    (written : container.WrittenIn image)
    (fits : image.size < 4294967296)
    {pools : Container}
    (inRange : ∀ proto ∈ container.protos, proto.InRange pools.strings.size pools.types.size) :
    readTable image 0x48 12 (protoAt image pools) = .ok container.protos := by
  have held := written.tables.protos
  have inside := held.le_size
  rw [length_flatMap_of_width (length_protoEntry container), Array.length_toList] at inside
  have header :=
    tableHeader_of_writtenIn written 2
      (show _ = some
        { kind := .protoIds, count := container.protos.size
          offset := 112 + container.strings.size * 4 + container.types.size * 4 } from rfl)
  dsimp only at header
  have read :
      readTable image 0x48 12 (protoAt image pools) = .ok container.protos.toList.toArray := by
    refine readTable_of_holds Array.length_toList header (by omega) (by omega) fun i bound => ?_
    have member := Array.mem_toList_iff.mp (List.getElem_mem bound)
    have entry :=
      held.flatMap_getElem_of_width 12 (fun proto _ => length_protoEntry container proto) bound
    obtain ⟨near, list⟩ :=
      typeListAt_typeListOffset written fits (inRange _ member).parameters
        (mem_typeLists (.inl ⟨_, member, rfl⟩))
    exact protoAt_of_holds (inRange _ member) near list entry
  simpa using read

/-- The fields are read from their table, given the strings and the types. -/
theorem readFields
    (written : container.WrittenIn image)
    (fits : image.size < 4294967296)
    {pools : Container}
    (inRange : ∀ id ∈ container.fields, id.InRange pools.strings.size pools.types.size) :
    readTable image 0x50 8 (fieldAt image pools) = .ok container.fields := by
  have held := written.tables.fields
  have inside := held.le_size
  rw [length_flatMap_of_width length_fieldEntry, Array.length_toList] at inside
  have header :=
    tableHeader_of_writtenIn written 3
      (show _ = some
        { kind := .fieldIds, count := container.fields.size
          offset :=
            112 + container.strings.size * 4 + container.types.size * 4 +
              container.protos.size * 12 } from rfl)
  dsimp only at header
  have read :
      readTable image 0x50 8 (fieldAt image pools) = .ok container.fields.toList.toArray := by
    refine readTable_of_holds Array.length_toList header (by omega) (by omega) fun i bound => ?_
    exact fieldAt_of_holds (inRange _ (Array.mem_toList_iff.mp (List.getElem_mem bound)))
      (held.flatMap_getElem_of_width 8 (fun id _ => length_fieldEntry id) bound)
  simpa using read

/-- The methods are read from their table, given the strings, the types and the prototypes. -/
theorem readMethods
    (written : container.WrittenIn image)
    (fits : image.size < 4294967296)
    {pools : Container}
    (inRange :
      ∀ id ∈ container.methods,
        id.InRange pools.strings.size pools.types.size pools.protos.size) :
    readTable image 0x58 8 (methodAt image pools) = .ok container.methods := by
  have held := written.tables.methods
  have inside := held.le_size
  rw [length_flatMap_of_width length_methodEntry, Array.length_toList] at inside
  have header :=
    tableHeader_of_writtenIn written 4
      (show _ = some
        { kind := .methodIds, count := container.methods.size
          offset :=
            112 + container.strings.size * 4 + container.types.size * 4 +
              container.protos.size * 12 + container.fields.size * 8 } from rfl)
  dsimp only at header
  have read :
      readTable image 0x58 8 (methodAt image pools) = .ok container.methods.toList.toArray := by
    refine readTable_of_holds Array.length_toList header (by omega) (by omega) fun i bound => ?_
    exact methodAt_of_holds (inRange _ (Array.mem_toList_iff.mp (List.getElem_mem bound)))
      (held.flatMap_getElem_of_width 8 (fun id _ => length_methodEntry id) bound)
  simpa using read

/-- The classes are read from their table, given all pools. -/
theorem readClasses
    (written : container.WrittenIn image)
    (fits : image.size < 4294967296)
    {pools : Container}
    (inRange : ∀ classDef ∈ container.classes, classDef.InRange pools)
    (fewStrings : pools.strings.size < 4294967296)
    (fewTypes : pools.types.size < 4294967296)
    (readable : container.ReadableBodies) :
    readTable image 0x60 32 (classAt image pools) = .ok container.classes.toArray := by
  have held := written.tables.classes
  have inside := held.le_size
  rw [length_flatMap_of_width (length_classEntry container), length_classParts] at inside
  have header :=
    tableHeader_of_writtenIn written 5
      (show _ = some
        { kind := .classDefs, count := container.classes.length
          offset :=
            112 + container.strings.size * 4 + container.types.size * 4 +
              container.protos.size * 12 + container.fields.size * 8 +
              container.methods.size * 8 } from rfl)
  dsimp only at header
  refine readTable_of_holds rfl header (by omega) (by omega) fun i bound => ?_
  have partsBound : i < container.classParts.length := by
    rw [length_classParts]
    exact bound
  have entry :=
    held.flatMap_getElem_of_width 32 (fun parts _ => length_classEntry container parts) partsBound
  have parts := List.getElem?_eq_getElem partsBound
  generalize container.classParts[i] = beside at parts entry
  obtain ⟨classDef, directory, members, staticValues⟩ := beside
  simp only [classParts, List.getElem?_zip_eq_some] at parts
  obtain ⟨isClass, isDirectory, areMembers, areValues⟩ := parts
  have same : container.classes[i] = classDef :=
    Option.some.inj ((List.getElem?_eq_getElem bound).symm.trans isClass)
  rw [same]
  have ranged := inRange classDef (List.mem_of_getElem? isClass)
  exact classAt_of_holds ranged fewStrings fewTypes
    (typeListAt_typeListOffset written fits ranged.interfaces
      (mem_typeLists (.inr ⟨classDef, List.mem_of_getElem? isClass, rfl⟩)))
    (written.leadsToDirectory fits isClass isDirectory)
    (written.leadsToClassData fits readable isClass ranged.members areMembers)
    (written.leadsToStaticValues fits isClass areValues) entry

end WrittenIn

/-- A container is what its image holds, if its hidden-API section is read as some other one. -/
theorem decode_image_of_readAs
    {container : Container}
    (readable : container.Readable)
    (fits : container.image.size < 4294967296)
    {reread : Option Bytes}
    (samePresence : reread.isSome = container.hiddenApi.isSome)
    (readAs :
      container.hiddenApi.isSome →
        container.data.hiddenApi.entry.ReadAs container.image
          { container with hiddenApi := reread }) :
    decode container.image = .ok { container with hiddenApi := reread } := by
  have written := container.writtenIn_image
  have size := written.size
  have base := container.laidOut.base
  have start := container.le_dataOffset
  have mapLength : 4 ≤ (mapBytes (container.sections container.data)).length := by
    simp [mapBytes]
  have position : 112 ≤ container.data.layout.position := by
    simp only [Layout.position]
    omega
  obtain ⟨fewStrings, fewTypes⟩ := written.pools_fit fits
  have fields := written.fields
  simp only [headerFields, Holds.append_iff, List.length_append, length_le32, and_assoc,
    Nat.reduceAdd] at fields
  obtain ⟨-, -, -, -, -, mapOffset, -⟩ := fields
  have count := written.map.left
  have entries := written.map.right
  rw [length_le32] at entries
  have sectionCount : (container.sections container.data).length < 4294967296 := by
    have := length_mul_le_length_flatMap Section.bytes (container.sections container.data) 1
      fun entry _ => by simp [Section.bytes]
    simp only [mapBytes, List.length_append] at size
    omega
  have readsSections :=
    readSections_of_holds (fun entry member =>
      written.readAs_sections fits readable.handles readAs member) entries
  rw [decode, bind_of_ok (readHeader_of_writtenIn written readable.version (by omega)),
    bind_of_ok (written.readStrings fits readable.strings),
    bind_of_ok (written.readTypes fits readable.types)]
  dsimp only
  -- each pool is read with the pools before it
  refine (bind_of_ok (written.readProtos fits ?_)).trans ?_
  · exact readable.protos
  refine (bind_of_ok (written.readFields fits ?_)).trans ?_
  · exact readable.fields
  refine (bind_of_ok (written.readMethods fits ?_)).trans ?_
  · exact readable.methods
  rw [bind_of_ok (natAt_of_holds (by omega) mapOffset), if_neg (by omega),
    bind_of_ok (natAt_of_holds sectionCount count), bind_of_ok (readsSections _),
    foldl_apply_sections container { container with hiddenApi := reread } rfl rfl samePresence rfl
      rfl rfl]
  refine (bind_of_ok (written.readClasses fits (fun classDef member => ?_) fewStrings fewTypes
    readable.bodies)).trans ?_
  · have ranged := readable.classes classDef member
    exact ⟨ranged.type, ranged.superclass, ranged.interfaces, ranged.sourceFile, ranged.members⟩
  · rfl

/-- A container with a shaped hidden-API section, or without one, is what its image holds. -/
theorem decode_image
    {container : Container}
    (readable : container.Readable)
    (hiddenApi : ∀ blob ∈ container.hiddenApi, ShapedHiddenApi blob)
    (fits : container.image.size < 4294967296) :
    decode container.image = .ok container := by
  have written := container.writtenIn_image
  refine decode_image_of_readAs readable fits rfl fun present => ?_
  obtain ⟨blob, isBlob⟩ := Option.isSome_iff_exists.mp present
  obtain ⟨-, -, held⟩ := written.holds_hiddenApi isBlob
  have length := written.holds_hiddenApi_length isBlob (hiddenApi blob isBlob)
  rw [← Array.length_toList] at length
  exact WrittenIn.readAs_hiddenApi fits (by simp [isBlob]) length held.left

/-- The map lists the header. -/
theorem length_sections_pos (container : Container) (data : Data) :
    0 < (container.sections data).length :=
  List.length_pos_of_mem (List.mem_filter.mpr ⟨List.mem_cons_self, by simp⟩)

/-- Where an empty hidden-API section starts, the map does, and it has more bytes than entries.  So
a section is read there that is not empty. -/
theorem decode_image_of_empty_hiddenApi
    {container : Container}
    (readable : container.Readable)
    (empty : container.hiddenApi = some #[])
    (fits : container.image.size < 4294967296) :
    ∃ reread,
      decode container.image = .ok { container with hiddenApi := some reread } ∧ reread ≠ #[] := by
  have written := container.writtenIn_image
  obtain ⟨multiple, ends, -⟩ := written.holds_hiddenApi empty
  have map := written.map
  have mapOffset : container.data.layout.position = container.data.hiddenApi.entry.offset := by
    rw [show container.data.layout = container.data.hiddenApi.layout.align 4 from rfl,
      Layout.position_align, ends, Array.size_empty, padding]
    omega
  rw [mapOffset] at map
  have entries :
      (container.sections container.data).length ≤
        ((container.sections container.data).flatMap Section.bytes).length := by
    have := length_mul_le_length_flatMap Section.bytes (container.sections container.data) 1
      fun entry _ => by simp [Section.bytes]
    omega
  have length :
      ((mapBytes (container.sections container.data)).take
        (container.sections container.data).length).length =
          (container.sections container.data).length := by
    rw [List.length_take_of_le]
    simp only [mapBytes, List.length_append]
    omega
  refine ⟨((mapBytes (container.sections container.data)).take
    (container.sections container.data).length).toArray, ?_, ?_⟩
  · refine decode_image_of_readAs readable fits (by simp [empty]) fun _ => ?_
    refine WrittenIn.readAs_hiddenApi fits rfl ?_ ?_
    · rw [length]
      exact map.left
    · rw [← List.take_append_drop (container.sections container.data).length
        (mapBytes (container.sections container.data))] at map
      exact map.left
  · intro none
    have listed := container.length_sections_pos container.data
    have noBytes :
        (mapBytes (container.sections container.data)).take
          (container.sections container.data).length = [] :=
      congrArg Array.toList none
    rw [noBytes] at length
    exact absurd length.symm (Nat.ne_of_gt listed)

/-! ## How long an image is -/

theorem length_mapBytes (sections : List Section) :
    (mapBytes sections).length = 4 + sections.length * 12 := by
  have wide (entry : Section) : entry.bytes.length = 12 := rfl
  rw [mapBytes, List.length_append, length_le32, length_flatMap_of_width wide]

theorem length_sections_le (container : Container) (data : Data) :
    (container.sections data).length ≤ 21 := by
  refine Nat.le_trans (List.length_filter_le _ _) ?_
  simp [tableSections, tables, Data.stages]

/-- All that stands behind the data of an image is the map, and that is short. -/
theorem size_image_le (container : Container) :
    container.image.size ≤ container.data.layout.position + 256 := by
  have size := container.writtenIn_image.size
  have map := length_mapBytes (container.sections container.data)
  have few := container.length_sections_le container.data
  omega

theorem size_image_lt
    {container : Container}
    (short : container.data.layout.position < 4294967040) :
    container.image.size < 4294967296 := by
  have size := container.size_image_le
  omega

end Container

end DexPatch
