import DexPatch.Proofs.Placement

namespace DexPatch

/-!
# The regions of an image

An image consists of the header, the tables, the data and the map, one behind
the other.  Every stage of the data is still there at the end, and each table
has its entries at multiples of their size.
-/

/-- Elements beside each other in two lists are those with one position. -/
theorem mem_zip_iff
    {α β : Type}
    {first : List α}
    {second : List β}
    {x : α}
    {y : β} :
    (x, y) ∈ List.zip first second ↔
      ∃ i : Nat, first[i]? = some x ∧ second[i]? = some y := by
  rw [List.mem_iff_getElem?]
  simp only [List.getElem?_zip_eq_some]

/-- Pieces appended to bytes one by one are all appended. -/
theorem toList_concatBytes
    {α : Type}
    (list : List α)
    (piece : α → List UInt8) :
    (concatBytes list piece).toList = list.flatMap piece := by
  have general (bytes : Bytes) :
      (list.foldl (fun (bytes : Bytes) x => bytes ++ piece x) bytes).toList =
        bytes.toList ++ list.flatMap piece := by
    induction list generalizing bytes with
    | nil =>
        simp
    | cons x rest inductionHypothesis =>
        rw [List.foldl_cons, inductionHypothesis]
        simp
  rw [concatBytes, general]
  rfl

/-! ## Groups -/

section Groups

variable {α β : Type}

/-- There are as many pieces as groups. -/
theorem length_regroup (groups : List (List α)) (list : List β) :
    (regroup groups list).length = groups.length := by
  induction groups generalizing list with
  | nil =>
      rfl
  | cons group rest inductionHypothesis =>
      simp [regroup, inductionHypothesis]

/-- Lists that are as long as before take the same parts of a list. -/
theorem regroup_map
    {γ : Type}
    {change : α → γ}
    (groups : List (List α))
    (list : List β) :
    regroup (groups.map (List.map change)) list = regroup groups list := by
  induction groups generalizing list with
  | nil =>
      rfl
  | cons group rest inductionHypothesis =>
      rw [List.map_cons, regroup, regroup, List.length_map, inductionHypothesis]

/-- Each piece is as long as its group, and what stands beside each other in them did so in the
whole lists. -/
theorem regroup_spec
    {groups : List (List α)}
    {list : List β}
    (sameLength : list.length = groups.flatten.length)
    {group : List α}
    {part : List β}
    (member : (group, part) ∈ List.zip groups (regroup groups list)) :
    part.length = group.length ∧
      ∀ entry ∈ List.zip group part, entry ∈ List.zip groups.flatten list := by
  induction groups generalizing list with
  | nil =>
      simp [regroup] at member
  | cons first rest inductionHypothesis =>
      rw [List.flatten_cons, List.length_append] at sameLength
      have cut :
          List.zip (first ++ rest.flatten) list =
            List.zip first (list.take first.length) ++
              List.zip rest.flatten (list.drop first.length) := by
        conv => lhs; rw [← List.take_append_drop first.length list]
        rw [List.zip_append (by simp; omega)]
      rw [List.flatten_cons, cut]
      rw [regroup, List.zip_cons_cons] at member
      rcases List.mem_cons.mp member with here | later
      · simp only [Prod.mk.injEq] at here
        obtain ⟨rfl, rfl⟩ := here
        exact ⟨by simp; omega, fun entry beside => List.mem_append_left _ beside⟩
      · have lengthRest : (list.drop first.length).length = rest.flatten.length := by
          rw [List.length_drop]
          omega
        obtain ⟨length, each⟩ := inductionHypothesis lengthRest later
        exact ⟨length, fun entry beside => List.mem_append_right _ (each entry beside)⟩

end Groups

/-! ## The data -/

/-- Every piece of a container is at its offset in the data as a whole. -/
structure Container.LaidOut (container : Container) : Prop where
  base : container.data.layout.base = container.dataOffset
  strings :
    container.data.layout.AllPlaced (container.strings.toList.map fun string => some string.bytes)
      container.data.strings.offsets
  typeLists :
    container.data.layout.AllPlaced (container.typeLists.map fun types => some (typeListBytes types))
      container.data.typeLists.offsets
  items :
    container.data.layout.AllPlaced (container.annotationItems.map some)
      container.data.items.offsets
  sets :
    container.data.layout.AllPlaced
      ((container.setEntries container.data.annotations.items).map fun offsets =>
        some (offsetListBytes offsets))
      container.data.sets.offsets
  refLists :
    container.data.layout.AllPlaced
      (container.parameterSets.flatten.map fun sets =>
        some (container.data.annotations.refListBytes sets))
      container.data.refLists.offsets
  directories :
    container.data.layout.AllPlaced
      (container.directoryPieces container.data.annotations container.data.refLists.offsets)
      container.data.directories.offsets
  debug : container.data.layout.AllPlaced container.debugPieces container.data.debug.offsets
  bodies :
    container.data.layout.AllPlaced (container.bodyPieces container.data.debug.offsets)
      container.data.bodies.offsets
  classData :
    container.data.layout.AllPlaced (container.classDataPieces container.data.bodies.offsets)
      container.data.classData.offsets
  arrays : container.data.layout.AllPlaced container.arrayPieces container.data.arrays.offsets
  hiddenApi :
    container.data.layout.AllPlaced [container.hiddenApi.map (·.toList)]
      container.data.hiddenApi.offsets

/-- A stage leads from one layout to another and places pieces, if it is one of these. -/
theorem Stage.spec
    {stage : Stage}
    {layout : Layout}
    {kind : SectionKind}
    {unit : Nat}
    {pieces : List (Option (List UInt8))}
    (made : stage = layout.stage kind unit pieces) :
    layout.Extends stage.layout ∧ stage.layout.AllPlaced pieces stage.offsets := by
  subst made
  exact layout.stage_spec kind unit pieces

/-- The data of a container has all its pieces. -/
theorem Container.laidOut (container : Container) : container.LaidOut := by
  have strings := Stage.spec (show container.data.strings =
    Layout.stage { base := container.dataOffset, bytes := #[] } .stringData 1 _ from rfl)
  have typeLists := Stage.spec (show container.data.typeLists =
    container.data.strings.layout.stage .typeLists 4 _ from rfl)
  have items := Stage.spec (show container.data.items =
    container.data.typeLists.layout.stage .annotations 1 _ from rfl)
  have sets := Stage.spec (show container.data.sets =
    container.data.items.layout.stage .annotationSets 4 _ from rfl)
  have refLists := Stage.spec (show container.data.refLists =
    container.data.sets.layout.stage .annotationSetRefLists 4 _ from rfl)
  have directories := Stage.spec (show container.data.directories =
    container.data.refLists.layout.stage .annotationDirectories 4 _ from rfl)
  have debug := Stage.spec (show container.data.debug =
    container.data.directories.layout.stage .debugInfo 1 _ from rfl)
  have bodies := Stage.spec (show container.data.bodies =
    container.data.debug.layout.stage .bodies 4 _ from rfl)
  have classData := Stage.spec (show container.data.classData =
    container.data.bodies.layout.stage .classData 1 _ from rfl)
  have arrays := Stage.spec (show container.data.arrays =
    container.data.classData.layout.stage .encodedArrays 1 _ from rfl)
  have hiddenApi := Stage.spec (show container.data.hiddenApi =
    container.data.arrays.layout.stage .hiddenApi 4 [container.hiddenApi.map (·.toList)] from rfl)
  have hiddenApiExtends : container.data.hiddenApi.layout.Extends container.data.layout :=
    Layout.extends_align _ 4
  have arraysExtends := hiddenApi.1.trans hiddenApiExtends
  have classDataExtends := arrays.1.trans arraysExtends
  have bodiesExtends := classData.1.trans classDataExtends
  have debugExtends := bodies.1.trans bodiesExtends
  have directoriesExtends := debug.1.trans debugExtends
  have refListsExtends := directories.1.trans directoriesExtends
  have setsExtends := refLists.1.trans refListsExtends
  have itemsExtends := sets.1.trans setsExtends
  have typeListsExtends := items.1.trans itemsExtends
  have stringsExtends := typeLists.1.trans typeListsExtends
  exact
    { base := stringsExtends.1.trans strings.1.1
      strings := strings.2.of_extends stringsExtends
      typeLists := typeLists.2.of_extends typeListsExtends
      items := items.2.of_extends itemsExtends
      sets := sets.2.of_extends setsExtends
      refLists := refLists.2.of_extends refListsExtends
      directories := directories.2.of_extends directoriesExtends
      debug := debug.2.of_extends debugExtends
      bodies := bodies.2.of_extends bodiesExtends
      classData := classData.2.of_extends classDataExtends
      arrays := arrays.2.of_extends arraysExtends
      hiddenApi := hiddenApi.2.of_extends hiddenApiExtends }

/-! ## Tables -/

namespace Container

theorem length_directoryOffsets (container : Container) :
    container.data.directories.offsets.length = container.classes.length := by
  rw [container.laidOut.directories.1]
  simp [directoryPieces, length_regroup, parameterSets]

theorem length_classDataOffsets (container : Container) :
    container.data.classData.offsets.length = container.classes.length := by
  rw [container.laidOut.classData.1]
  simp [classDataPieces, length_regroup, methodLists]

theorem length_arrayOffsets (container : Container) :
    container.data.arrays.offsets.length =
      container.callSites.length + container.classes.length := by
  rw [container.laidOut.arrays.1]
  simp [arrayPieces]

theorem length_stringOffsets (container : Container) :
    container.data.strings.offsets.length = container.strings.size := by
  rw [container.laidOut.strings.1]
  simp

/-- Every entry of a table has the size that is told of the table. -/
theorem length_flatMap_of_width
    {α : Type}
    {list : List α}
    {bytes : α → List UInt8}
    {width : Nat}
    (wide : ∀ x, (bytes x).length = width) :
    (list.flatMap bytes).length = list.length * width := by
  simp [List.length_flatMap, wide, List.map_const']

/-- The parts of each class beside it: its directory, its members and its static values. -/
def classParts (container : Container) : List (ClassDef × Nat × Nat × Nat) :=
  List.zip container.classes
    (List.zip container.data.directories.offsets
      (List.zip container.data.classData.offsets
        (container.data.arrays.offsets.drop container.callSites.length)))

theorem length_classParts (container : Container) :
    container.classParts.length = container.classes.length := by
  simp [classParts, length_directoryOffsets, length_classDataOffsets, length_arrayOffsets]

/-- The entry of a class with its parts. -/
def classEntry (container : Container) (entry : ClassDef × Nat × Nat × Nat) : List UInt8 :=
  entry.1.entryBytes (typeListOffset container.data.typeTable entry.1.interfaces) entry.2.1
    entry.2.2.1 entry.2.2.2

/-- The entry of a prototype. -/
def protoEntry (container : Container) (proto : Proto) : List UInt8 :=
  proto.entryBytes (typeListOffset container.data.typeTable proto.parameters)

/-- All tables, one behind the other. -/
theorem toList_tableBytes (container : Container) :
    (container.tableBytes container.data).toList =
      container.data.strings.offsets.flatMap le32 ++
        (container.types.toList.flatMap fun string => le32 string.toNat) ++
        container.protos.toList.flatMap container.protoEntry ++
        container.fields.toList.flatMap FieldId.entryBytes ++
        container.methods.toList.flatMap MethodId.entryBytes ++
        container.classParts.flatMap container.classEntry ++
        (container.data.arrays.offsets.take container.callSites.length).flatMap le32 ++
        container.methodHandles.flatMap MethodHandle.entryBytes := by
  simp only [tableBytes, Array.toList_append, toList_concatBytes]
  rfl

@[simp] theorem length_protoEntry (container : Container) (proto : Proto) :
    (container.protoEntry proto).length = 12 := by
  simp [protoEntry, Proto.entryBytes]

@[simp] theorem length_classEntry
    (container : Container)
    (entry : ClassDef × Nat × Nat × Nat) :
    (container.classEntry entry).length = 32 := by
  simp [classEntry, ClassDef.entryBytes]

@[simp] theorem length_fieldEntry (id : FieldId) : id.entryBytes.length = 8 := by
  simp [FieldId.entryBytes]

@[simp] theorem length_methodEntry (id : MethodId) : id.entryBytes.length = 8 := by
  simp [MethodId.entryBytes]

@[simp] theorem length_handleEntry (handle : MethodHandle) : handle.entryBytes.length = 8 := by
  simp [MethodHandle.entryBytes]

/-- Where the tables start: one behind the other, each as long as its entries together. -/
structure TablesHeld (container : Container) (image : Bytes) : Prop where
  strings : Holds image 112 (container.data.strings.offsets.flatMap le32)
  types :
    Holds image (112 + container.strings.size * 4)
      (container.types.toList.flatMap fun string => le32 string.toNat)
  protos :
    Holds image (112 + container.strings.size * 4 + container.types.size * 4)
      (container.protos.toList.flatMap container.protoEntry)
  fields :
    Holds image
      (112 + container.strings.size * 4 + container.types.size * 4 + container.protos.size * 12)
      (container.fields.toList.flatMap FieldId.entryBytes)
  methods :
    Holds image
      (112 + container.strings.size * 4 + container.types.size * 4 + container.protos.size * 12 +
        container.fields.size * 8)
      (container.methods.toList.flatMap MethodId.entryBytes)
  classes :
    Holds image
      (112 + container.strings.size * 4 + container.types.size * 4 + container.protos.size * 12 +
        container.fields.size * 8 + container.methods.size * 8)
      (container.classParts.flatMap container.classEntry)
  callSites :
    Holds image
      (112 + container.strings.size * 4 + container.types.size * 4 + container.protos.size * 12 +
        container.fields.size * 8 + container.methods.size * 8 + container.classes.length * 32)
      ((container.data.arrays.offsets.take container.callSites.length).flatMap le32)
  methodHandles :
    Holds image
      (112 + container.strings.size * 4 + container.types.size * 4 + container.protos.size * 12 +
        container.fields.size * 8 + container.methods.size * 8 + container.classes.length * 32 +
        container.callSites.length * 4)
      (container.methodHandles.flatMap MethodHandle.entryBytes)

/-- The tables are held as a whole exactly if each of them is. -/
theorem tablesHeld_iff {container : Container} {image : Bytes} :
    container.TablesHeld image ↔ Holds image 112 (container.tableBytes container.data).toList := by
  rw [toList_tableBytes]
  simp only [Holds.append_iff, List.length_append, length_flatMap_of_width length_le32,
    length_flatMap_of_width (length_protoEntry container),
    length_flatMap_of_width (length_classEntry container),
    length_flatMap_of_width length_fieldEntry, length_flatMap_of_width length_methodEntry,
    length_flatMap_of_width (fun string : UInt32 => length_le32 string.toNat),
    length_stringOffsets, length_classParts, Array.length_toList, List.length_take,
    length_arrayOffsets, and_assoc, ← Nat.add_assoc,
    Nat.min_eq_left (Nat.le_add_right container.callSites.length container.classes.length)]
  constructor
  · rintro ⟨strings, types, protos, fields, methods, classes, callSites, methodHandles⟩
    exact ⟨strings, types, protos, fields, methods, classes, callSites, methodHandles⟩
  · rintro ⟨strings, types, protos, fields, methods, classes, callSites, methodHandles⟩
    exact { strings, types, protos, fields, methods, classes, callSites, methodHandles }

/-- The tables reach from the header to the data. -/
theorem length_tableBytes (container : Container) :
    112 + (container.tableBytes container.data).toList.length = container.dataOffset := by
  rw [toList_tableBytes]
  simp only [List.length_append, length_flatMap_of_width length_le32,
    length_flatMap_of_width (length_protoEntry container),
    length_flatMap_of_width (length_classEntry container),
    length_flatMap_of_width length_fieldEntry, length_flatMap_of_width length_methodEntry,
    length_flatMap_of_width length_handleEntry,
    length_flatMap_of_width (fun string : UInt32 => length_le32 string.toNat),
    length_stringOffsets, length_classParts, Array.length_toList, List.length_take,
    length_arrayOffsets, ← Nat.add_assoc,
    Nat.min_eq_left (Nat.le_add_right container.callSites.length container.classes.length)]
  rfl

/-! ## The image -/

/-- The digest of a message has twenty bytes. -/
theorem length_sha1 (message : Bytes) : (Digest.sha1 message).length = 20 := by
  simp [Digest.sha1, Digest.bigEndian]

theorem length_headerFields (container : Container) (fileSize mapOffset : Nat) :
    (container.headerFields fileSize mapOffset).length = 80 := by
  simp [headerFields, tables, tableSections]

/-- The regions of the image of a container. -/
structure WrittenIn (container : Container) (image : Bytes) : Prop where
  size :
    image.size =
      container.data.layout.position + (mapBytes (container.sections container.data)).length
  start : Holds image 0 (Header.magic ++ (container.version.bytes ++ [0]))
  fields : Holds image 32 (container.headerFields image.size container.data.layout.position)
  tables : container.TablesHeld image
  data : container.data.layout.Within image
  map :
    Holds image container.data.layout.position (mapBytes (container.sections container.data))

/-- A sealed image is its body behind the format's name, a checksum and a digest. -/
theorem toList_sealed (version : Version) (body : Bytes) :
    (sealed version body).toList =
      (Header.magic ++ (version.bytes ++ [0])) ++
        (le32 (Digest.adler32 ((Digest.sha1 body).toArray ++ body)).toNat ++
          (Digest.sha1 body ++ body.toList)) := by
  simp only [sealed, Array.toList_append, List.append_assoc]

/-- What is sealed into the image of a container. -/
def unsealed (container : Container) : Bytes :=
  (container.headerFields
        (container.data.layout.position + (mapBytes (container.sections container.data)).length)
        container.data.layout.position).toArray ++
      container.tableBytes container.data ++ container.data.layout.bytes ++
    mapBytes (container.sections container.data)

theorem image_eq_sealed (container : Container) :
    container.image = sealed container.version container.unsealed :=
  rfl

/-- What is sealed, as a list of bytes. -/
theorem toList_unsealed (container : Container) :
    container.unsealed.toList =
      container.headerFields
          (container.data.layout.position +
            (mapBytes (container.sections container.data)).length)
          container.data.layout.position ++
        ((container.tableBytes container.data).toList ++
          (container.data.layout.bytes.toList ++
            mapBytes (container.sections container.data))) := by
  simp only [unsealed, Array.toList_append, Array.toList_appendList, List.append_assoc]

/-- The image of a container has these regions. -/
theorem writtenIn_image (container : Container) : container.WrittenIn container.image := by
  have base := container.laidOut.base
  have tablesLength := container.length_tableBytes
  have shape := toList_sealed container.version container.unsealed
  rw [← image_eq_sealed, toList_unsealed] at shape
  have startLength : (Header.magic ++ (container.version.bytes ++ [0])).length = 8 := rfl
  have size :
      container.image.size =
        container.data.layout.position +
          (mapBytes (container.sections container.data)).length := by
    rw [← Array.length_toList, shape]
    simp only [List.length_append, length_le32, length_sha1, length_headerFields,
      Layout.position, Array.length_toList] at tablesLength startLength ⊢
    omega
  have whole := Holds.whole container.image
  rw [shape, ← size] at whole
  obtain ⟨start, rest⟩ := Holds.append_iff.mp whole
  simp only [Holds.append_iff, startLength, length_le32, length_sha1, length_headerFields,
    Nat.zero_add, Nat.reduceAdd, tablesLength] at rest
  obtain ⟨-, -, fields, tables, data, map⟩ := rest
  have mapHeld := map.congr_offset
    (show _ = container.data.layout.position by simp [Layout.position, base])
  exact
    { size, start, fields, map := mapHeld
      tables := tablesHeld_iff.mpr tables
      data := data.congr_offset base.symm }

end Container

end DexPatch
