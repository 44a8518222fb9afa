import DexPatch.Proofs.Bodies
import DexPatch.Proofs.PlacedAnnotations
import DexPatch.Proofs.Tables

namespace DexPatch

/-!
# Classes read back

The entry of a class leads to its annotations, its members and its static
values, and from there on to sets of annotations, bodies and debug
information.  Everything was laid out in front of what leads to it, so it is
found from the inside out.
-/

/-- A body that can be read back once it is written. -/
@[mk_iff]
structure Body.Readable (body : Body) : Prop where
  shaped : body.Shaped
  placed : ∀ range ∈ body.tries, range.Placed (.ofHandlers body.handlers)
  presentable :
    ∀ debug ∈ body.debug,
      Presentable (debug.parameterNames ++ debug.ops.flatMap DebugOp.options)

instance (body : Body) : Decidable body.Readable := decidable_of_iff _ (Body.readable_iff body).symm

/-- All bodies of a container can be read back. -/
def Container.ReadableBodies (container : Container) : Prop :=
  ∀ classDef ∈ container.classes, ∀ method ∈ classDef.allMethods,
    ∀ body ∈ method.body, body.Readable

instance (container : Container) : Decidable container.ReadableBodies :=
  inferInstanceAs (Decidable (∀ _ ∈ _, _))

/-- The body of a laid-out method. -/
theorem Container.ReadableBodies.of_mem
    {container : Container}
    (readable : container.ReadableBodies)
    {method : MemberMethod}
    (member : method ∈ container.methodLists.flatten)
    {body : Body}
    (found : method.body = some body) :
    body.Readable := by
  obtain ⟨methods, isList, isMethod⟩ := List.mem_flatten.mp member
  obtain ⟨classDef, isClass, rfl⟩ := List.mem_map.mp isList
  exact readable classDef isClass method isMethod body found

namespace Container.WrittenIn

variable {container : Container} {image : Bytes}

/-- The data starts behind the header. -/
theorem le_base (container : Container) : 112 ≤ container.data.layout.base := by
  rw [container.laidOut.base]
  exact container.le_dataOffset

/-! ## Annotations -/

theorem allSets_annotations (container : Container) :
    AnnotationDirectory.allSets (container.classes.map (·.annotations)) =
      container.annotationSets := by
  rw [AnnotationDirectory.allSets, List.filterMap_map]
  rfl

theorem refLists_annotations (container : Container) :
    (container.classes.map (·.annotations)).map AnnotationDirectory.refLists =
      container.parameterSets := by
  rw [List.map_map]
  rfl

theorem pieces_annotations
    (container : Container)
    (offsets : AnnotationOffsets)
    (listOffsets : List Nat) :
    AnnotationDirectory.pieces offsets (container.classes.map (·.annotations)) listOffsets =
      container.directoryPieces offsets listOffsets := by
  rw [AnnotationDirectory.pieces, refLists_annotations, List.zip_map_left, List.map_map]
  rfl

/-- The annotations of a container are where its tables say. -/
theorem annotationsPlaced (container : Container) :
    container.data.layout.AnnotationsPlaced (container.classes.map (·.annotations))
      container.data.annotations container.data.refLists.offsets
      container.data.directories.offsets := by
  have items :
      container.data.layout.AllPlaced
        (container.annotationItems.map fun bytes => some (id bytes))
        container.data.items.offsets :=
    container.laidOut.items
  constructor
  · rw [allSets_annotations]
    intro set isSet item isItem
    exact items.placed_offsetIn
      (mem_distinct (List.mem_flatMap.mpr ⟨set, isSet, List.mem_map_of_mem isItem⟩))
  · rw [allSets_annotations]
    intro set isSet
    exact container.laidOut.sets.placed_offsetIn (mem_distinct (List.mem_map_of_mem isSet))
  · rw [refLists_annotations]
    exact container.laidOut.refLists
  · rw [pieces_annotations]
    exact container.laidOut.directories

/-- An annotation that was laid out is held at the offset that its table has. -/
theorem holds_annotationItem
    (written : container.WrittenIn image)
    {bytes : List UInt8}
    (member : bytes ∈ container.annotationItems) :
    Holds image (offsetIn container.data.annotations.items bytes) bytes := by
  have items :
      container.data.layout.AllPlaced
        (container.annotationItems.map fun bytes => some (id bytes))
        container.data.items.offsets :=
    container.laidOut.items
  exact (items.placed_offsetIn member).2 image written.data

/-- The annotations of a class are read at the offset beside it. -/
theorem leadsToDirectory
    (written : container.WrittenIn image)
    (fits : image.size < 4294967296)
    {i offset : Nat}
    {classDef : ClassDef}
    (found : container.classes[i]? = some classDef)
    (beside : container.data.directories.offsets[i]? = some offset) :
    offset < 4294967296 ∧ atOffset offset (directoryAt image) = .ok classDef.annotations :=
  (annotationsPlaced container).leadsToDirectory (le_base container) written.data fits
    (by rw [List.getElem?_map, found]; rfl) beside

/-! ## Members -/

/-- The debug information of a method is read at the offset beside it. -/
theorem leadsToDebugInfo
    (written : container.WrittenIn image)
    (fits : image.size < 4294967296)
    (readable : container.ReadableBodies)
    {method : MemberMethod}
    {offset : Nat}
    (member :
      (method, offset) ∈ List.zip container.methodLists.flatten container.data.debug.offsets) :
    offset < 4294967296 ∧
      atOffset offset (readDebugInfo image).readAt = .ok (method.body.bind (·.debug)) := by
  have beside :
      ((method.body.bind (·.debug)).map DebugInfo.bytes, offset) ∈
        List.zip container.debugPieces container.data.debug.offsets := by
    rw [Container.debugPieces, List.zip_map_left]
    exact List.mem_map.mpr ⟨_, member, rfl⟩
  refine container.laidOut.debug.leads written.data (le_base container) fits beside
    fun debug found held => ?_
  obtain ⟨body, hasBody, hasDebug⟩ := Option.bind_eq_some_iff.mp found
  have inside := held.le_size
  have readableBody := readable.of_mem (List.of_mem_zip member).1 hasBody
  exact Cursor.readAt_of_ok
    (Cursor.Reads.debugInfo (by omega) (readableBody.shaped.steps debug hasDebug)
      (readableBody.presentable debug hasDebug) held)

/-- The body of a method is read at the offset beside it. -/
theorem leadsToBody
    (written : container.WrittenIn image)
    (fits : image.size < 4294967296)
    (readable : container.ReadableBodies)
    {method : MemberMethod}
    {offset : Nat}
    (member :
      (method, offset) ∈ List.zip container.methodLists.flatten container.data.bodies.offsets) :
    offset < 4294967296 ∧ atOffset offset (bodyAt image) = .ok method.body := by
  obtain ⟨i, isMethod, isOffset⟩ := mem_zip_iff.mp member
  obtain ⟨inside, -⟩ := List.getElem?_eq_some_iff.mp isMethod
  have bound : i < container.data.debug.offsets.length := by
    rw [container.laidOut.debug.1, Container.debugPieces, List.length_map]
    exact inside
  have isDebugOffset := List.getElem?_eq_getElem bound
  obtain ⟨debugFits, debug⟩ :=
    written.leadsToDebugInfo fits readable (mem_zip_iff.mpr ⟨i, isMethod, isDebugOffset⟩)
  have piece :
      (container.bodyPieces container.data.debug.offsets)[i]? =
        some (method.body.map (·.bytes container.data.debug.offsets[i])) := by
    have zipped :
        (List.zip container.methodLists.flatten container.data.debug.offsets)[i]? =
          some (method, container.data.debug.offsets[i]) :=
      List.getElem?_zip_eq_some.mpr ⟨isMethod, isDebugOffset⟩
    simp [Container.bodyPieces, zipped]
  refine container.laidOut.bodies.leads written.data (le_base container) fits
    (mem_zip_iff.mpr ⟨i, piece, isOffset⟩) fun body hasBody held => ?_
  have readableBody := readable.of_mem (List.of_mem_zip member).1 hasBody
  rw [hasBody] at debug
  exact bodyAt_of_holds readableBody.shaped readableBody.placed fits debugFits debug held

/-- The members of a class are read at the offset beside it. -/
theorem leadsToClassData
    (written : container.WrittenIn image)
    (fits : image.size < 4294967296)
    (readable : container.ReadableBodies)
    {pools : Container}
    {i offset : Nat}
    {classDef : ClassDef}
    (found : container.classes[i]? = some classDef)
    (inRange : ∀ data ∈ classDef.data, data.InRange pools.fields.size pools.methods.size)
    (beside : container.data.classData.offsets[i]? = some offset) :
    offset < 4294967296 ∧ atOffset offset (readClassData image pools).readAt = .ok classDef.data := by
  obtain ⟨offsets, part, grouped⟩ :=
    exists_regroup ClassDef.allMethods container.data.bodies.offsets found
  have debugLength : container.data.debug.offsets.length = container.methodLists.flatten.length := by
    rw [container.laidOut.debug.1, Container.debugPieces, List.length_map]
  have sameLength : container.data.bodies.offsets.length = container.methodLists.flatten.length := by
    rw [container.laidOut.bodies.1, Container.bodyPieces, List.length_map, List.length_zip,
      debugLength, Nat.min_self]
  obtain ⟨partLength, partBeside⟩ := regroup_spec sameLength grouped
  have piece :
      (container.classDataPieces container.data.bodies.offsets)[i]? =
        some (classDef.data.map (·.bytes offsets)) := by
    have zipped :
        (List.zip container.classes
            (regroup container.methodLists container.data.bodies.offsets))[i]? =
          some (classDef, offsets) :=
      List.getElem?_zip_eq_some.mpr ⟨found, part⟩
    simp [Container.classDataPieces, zipped]
  refine container.laidOut.classData.leads written.data (le_base container) fits
    (mem_zip_iff.mpr ⟨i, piece, beside⟩) fun data hasData held => ?_
  have methods : classDef.allMethods = data.directMethods ++ data.virtualMethods := by
    simp [ClassDef.allMethods, hasData, ClassData.allMethods]
  rw [methods] at partLength partBeside
  refine readClassData_of_holds fits (inRange data hasData) ⟨partLength, fun entry member => ?_⟩ held
  exact written.leadsToBody fits readable (partBeside entry member)

/-! ## Arrays of values -/

/-- A call site is read at the offset beside it. -/
theorem leadsToCallSite
    (written : container.WrittenIn image)
    (fits : image.size < 4294967296)
    {i offset : Nat}
    {callSite : List Value}
    (found : container.callSites[i]? = some callSite)
    (beside : (container.data.arrays.offsets.take container.callSites.length)[i]? = some offset) :
    offset < 4294967296 ∧ (readValues image).readAt offset = .ok callSite := by
  obtain ⟨inside, -⟩ := List.getElem?_eq_some_iff.mp found
  rw [List.getElem?_take_of_lt inside] at beside
  have piece : container.arrayPieces[i]? = some (some (Value.arrayBytes callSite)) := by
    rw [Container.arrayPieces, List.getElem?_append_left (by simpa using inside), List.getElem?_map,
      found]
    rfl
  obtain ⟨-, held⟩ :=
    container.laidOut.arrays.holds written.data (mem_zip_iff.mpr ⟨i, piece, beside⟩)
  have size := held.le_size
  have positive := Value.length_arrayBytes_pos callSite
  exact ⟨by omega, Cursor.readAt_of_ok (Value.readsArray callSite (by omega) held)⟩

/-- The static values of a class are read at the offset beside it. -/
theorem leadsToStaticValues
    (written : container.WrittenIn image)
    (fits : image.size < 4294967296)
    {i offset : Nat}
    {classDef : ClassDef}
    (found : container.classes[i]? = some classDef)
    (beside : (container.data.arrays.offsets.drop container.callSites.length)[i]? = some offset) :
    offset < 4294967296 ∧ atOffset offset (readValues image).readAt = .ok classDef.staticValues := by
  rw [List.getElem?_drop] at beside
  have piece :
      container.arrayPieces[container.callSites.length + i]? =
        some (classDef.staticValues.map Value.arrayBytes) := by
    rw [Container.arrayPieces, List.getElem?_append_right (by simp)]
    simp [found]
  refine container.laidOut.arrays.leads written.data (le_base container) fits
    (mem_zip_iff.mpr ⟨_, piece, beside⟩) fun values _ held => ?_
  have size := held.le_size
  exact Cursor.readAt_of_ok (Value.readsArray values (by omega) held)

end Container.WrittenIn

/-! ## Entries of classes -/

/-- A class whose references are in the pools of a container. -/
@[mk_iff]
structure ClassDef.InRange (classDef : ClassDef) (pools : Container) : Prop where
  type : classDef.type.toNat < pools.types.size
  superclass : ∀ index ∈ classDef.superclass, index.toNat < pools.types.size
  interfaces :
    ∀ index ∈ classDef.interfaces, index.toNat < pools.types.size ∧ index.toNat < 65536
  sourceFile : ∀ index ∈ classDef.sourceFile, index.toNat < pools.strings.size
  members : ∀ data ∈ classDef.data, data.InRange pools.fields.size pools.methods.size

instance (classDef : ClassDef) (pools : Container) : Decidable (classDef.InRange pools) :=
  decidable_of_iff _ (ClassDef.inRange_iff classDef pools).symm

/-- A number that may be absent is read where it is held. -/
theorem optionalAt_of_holds
    {data : Bytes}
    {pool : Pool}
    {size offset : Nat}
    {index : Option UInt32}
    (small : size < 4294967296)
    (inRange : ∀ present ∈ index, present.toNat < size)
    (held : Holds data offset (le32 (index.getD Header.noIndex).toNat)) :
    optionalAt data pool size offset = .ok index := by
  rw [optionalAt, bind_of_ok (u32At_toNat_of_holds held)]
  cases index with
  | none =>
      rfl
  | some present =>
      have listed := inRange present rfl
      have notAbsent : present ≠ Header.noIndex := by
        rintro rfl
        have value : Header.noIndex.toNat = 4294967295 := rfl
        omega
      rw [Option.getD_some, if_neg notAbsent, bind_of_ok (checked_of_lt listed)]
      rfl

/-- A class is read where its entry is held, if its offsets lead to its parts. -/
theorem classAt_of_holds
    {data : Bytes}
    {pools : Container}
    {classDef : ClassDef}
    {offset interfaces directory members staticValues : Nat}
    (inRange : classDef.InRange pools)
    (fewStrings : pools.strings.size < 4294967296)
    (fewTypes : pools.types.size < 4294967296)
    (interfaceList :
      interfaces < 4294967296 ∧
        typeListAt data pools.types.size interfaces = .ok classDef.interfaces)
    (directoryPart :
      directory < 4294967296 ∧ atOffset directory (directoryAt data) = .ok classDef.annotations)
    (membersPart :
      members < 4294967296 ∧
        atOffset members (readClassData data pools).readAt = .ok classDef.data)
    (staticValuesPart :
      staticValues < 4294967296 ∧
        atOffset staticValues (readValues data).readAt = .ok classDef.staticValues)
    (held : Holds data offset (classDef.entryBytes interfaces directory members staticValues)) :
    classAt data pools offset = .ok classDef := by
  simp only [ClassDef.entryBytes, Holds.append_iff, List.length_append, length_le32, and_assoc,
    Nat.reduceAdd] at held
  obtain ⟨type, access, superclass, interfacesAt, sourceFile, directoryAt, membersAt,
    staticValuesAt⟩ := held
  rw [classAt, bind_of_ok (optionalAt_of_holds fewTypes inRange.superclass superclass),
    bind_of_ok (optionalAt_of_holds fewStrings inRange.sourceFile sourceFile),
    bind_of_ok (natAt_of_holds directoryPart.1 directoryAt),
    bind_of_ok (natAt_of_holds membersPart.1 membersAt),
    bind_of_ok (natAt_of_holds staticValuesPart.1 staticValuesAt),
    bind_of_ok (u32At_toNat_of_holds type), bind_of_ok (checked_of_lt inRange.type),
    bind_of_ok (u32At_toNat_of_holds access),
    bind_of_ok (natAt_of_holds interfaceList.1 interfacesAt), bind_of_ok interfaceList.2,
    bind_of_ok directoryPart.2, bind_of_ok membersPart.2, bind_of_ok staticValuesPart.2]
  rfl

end DexPatch
