import DexPatch.Image.Header
import DexPatch.Image.Layout
import DexPatch.Image.Values
import DexPatch.Renumber.Representable

namespace DexPatch

/-!
# Writing an image

An image is a header, the tables of ids, the data that the tables point to,
and the map of all sections.  The data is laid out in an order in which
everything comes behind what it points to.  `Container.image` takes a
container that is in canonical order and representable; `Container.encode`
checks one and brings it into that order first.
-/

/-- The written form of a pool string. -/
def PoolString.bytes (string : PoolString) : List UInt8 :=
  Leb128.unsigned string.utf16Length ++ string.data ++ [0]

/-- The written form of a list of types. -/
def typeListBytes (types : List UInt32) : List UInt8 :=
  le32 types.length ++ types.flatMap fun type => le16 type.toNat

/-- The written form of a list of offsets behind its length. -/
def offsetListBytes (offsets : List Nat) : List UInt8 :=
  le32 offsets.length ++ offsets.flatMap le32

/-- The written form of members, each with an offset. -/
def memberOffsetsBytes (entries : List (UInt32 × Nat)) : List UInt8 :=
  entries.flatMap fun (member, offset) => le32 member.toNat ++ le32 offset

/-- Where annotations are. -/
structure AnnotationOffsets where
  items : Std.HashMap (List UInt8) Nat
  sets : Std.HashMap (List Nat) Nat

namespace AnnotationOffsets

/-- The offsets of the annotations of a set. -/
def entries (items : Std.HashMap (List UInt8) Nat) (set : AnnotationSet) : List Nat :=
  List.map (fun item : AnnotationItem => offsetIn items item.bytes) set

/-- The offset of a set. -/
def ofSet (offsets : AnnotationOffsets) (set : AnnotationSet) : Nat :=
  offsetIn offsets.sets (entries offsets.items set)

/-- The written form of the sets of a method's parameters, zero for one without annotations. -/
def refListBytes (offsets : AnnotationOffsets) (sets : List (Option AnnotationSet)) : List UInt8 :=
  offsetListBytes (sets.map fun set => (set.map offsets.ofSet).getD 0)

/-- The written form of a directory whose parameter lists are at some offsets. -/
def directoryBytes (offsets : AnnotationOffsets) (directory : AnnotationDirectory)
    (refLists : List Nat) : List UInt8 :=
  let withOffset (entry : UInt32 × AnnotationSet) : UInt32 × Nat := (entry.1, offsets.ofSet entry.2)
  le32 ((directory.ofClass.map offsets.ofSet).getD 0) ++ le32 directory.ofFields.length ++
    le32 directory.ofMethods.length ++ le32 directory.ofParameters.length ++
    memberOffsetsBytes (directory.ofFields.map withOffset) ++
    memberOffsetsBytes (directory.ofMethods.map withOffset) ++
    memberOffsetsBytes (List.zip (directory.ofParameters.map (·.1)) refLists)

end AnnotationOffsets

/-- Pieces of one kind laid out: the data up to them, their offsets, and the section they make. -/
structure Stage where
  layout : Layout
  offsets : List Nat
  entry : Section

/-- Lays pieces of one kind out behind what is there, each at a multiple of a unit. -/
def Layout.stage (layout : Layout) (kind : SectionKind) (unit : Nat)
    (pieces : List (Option (List UInt8))) : Stage :=
  let start := layout.align unit
  let (layout, offsets) := start.place unit pieces
  { layout, offsets
    entry := { kind, count := (pieces.filterMap id).length, offset := start.position } }

/-- A list cut into pieces that are as long as the given groups. -/
def regroup {α β : Type} : List (List α) → List β → List (List β)
  | [], _ => []
  | group :: groups, list => list.take group.length :: regroup groups (list.drop group.length)

/-- The parameter annotations of a class, one list of sets per method. -/
def ClassDef.parameterSets (classDef : ClassDef) : List (List (Option AnnotationSet)) :=
  match classDef.annotations with
  | some directory => directory.ofParameters.map (·.2)
  | none => []

/-- All methods of a class, in the order in which their bodies are written. -/
def ClassDef.allMethods (classDef : ClassDef) : List MemberMethod :=
  match classDef.data with
  | some data => data.allMethods
  | none => []

/-- The entry of a class in its table, given where its parts are. -/
def ClassDef.entryBytes (classDef : ClassDef)
    (interfaces directory data staticValues : Nat) : List UInt8 :=
  let optional (index : Option UInt32) : List UInt8 := le32 (index.getD Header.noIndex).toNat
  le32 classDef.type.toNat ++ le32 classDef.access.toNat ++ optional classDef.superclass ++
    le32 interfaces ++ optional classDef.sourceFile ++ le32 directory ++ le32 data ++
    le32 staticValues

/-- The entry of a prototype in its table, given where its parameter list is. -/
def Proto.entryBytes (proto : Proto) (parameters : Nat) : List UInt8 :=
  le32 proto.shorty.toNat ++ le32 proto.returnType.toNat ++ le32 parameters

/-- The entry of a field in its table. -/
def FieldId.entryBytes (id : FieldId) : List UInt8 :=
  le16 id.declaringType.toNat ++ le16 id.type.toNat ++ le32 id.name.toNat

/-- The entry of a method in its table. -/
def MethodId.entryBytes (id : MethodId) : List UInt8 :=
  le16 id.declaringType.toNat ++ le16 id.proto.toNat ++ le32 id.name.toNat

/-- The entry of a handle in its table. -/
def MethodHandle.entryBytes (handle : MethodHandle) : List UInt8 :=
  le16 handle.kind.toNat ++ le16 0 ++ le16 handle.target.toNat ++ le16 0

namespace Container

/-- The tables in front of the data: kind, count of entries and size of an entry. -/
def tables (container : Container) : List (SectionKind × Nat × Nat) :=
  [(.stringIds, container.strings.size, 4), (.typeIds, container.types.size, 4),
    (.protoIds, container.protos.size, 12), (.fieldIds, container.fields.size, 8),
    (.methodIds, container.methods.size, 8), (.classDefs, container.classes.length, 32),
    (.callSiteIds, container.callSites.length, 4),
    (.methodHandles, container.methodHandles.length, 8)]

/-- Tables as sections, one behind the other from an offset on. -/
def tableSections : (offset : Nat) → List (SectionKind × Nat × Nat) → List Section
  | _, [] => []
  | offset, (kind, count, size) :: rest =>
    { kind, count, offset } :: tableSections (offset + count * size) rest

/-- The offset at which the data starts. -/
def dataOffset (container : Container) : Nat :=
  container.tables.foldl (fun offset (_, count, size) => offset + count * size) Header.size

/-- The offset of a list of types; the empty list has none. -/
def typeListOffset (table : Std.HashMap (List UInt32) Nat) (types : List UInt32) : Nat :=
  if types.isEmpty then 0 else offsetIn table types

/-- The lists of types that are not empty, each once. -/
def typeLists (container : Container) : List (List UInt32) :=
  distinct ((container.protos.toList.map (·.parameters) ++
    container.classes.map (·.interfaces)).filter (!·.isEmpty))

/-- All sets of annotations. -/
def annotationSets (container : Container) : List AnnotationSet :=
  container.directories.flatMap (·.sets)

/-- The written forms of all annotations, each once. -/
def annotationItems (container : Container) : List (List UInt8) :=
  distinct (container.annotationSets.flatMap fun set => List.map AnnotationItem.bytes set)

/-- The sets of annotations as offsets of their annotations, each once. -/
def setEntries (container : Container) (items : Std.HashMap (List UInt8) Nat) : List (List Nat) :=
  distinct (container.annotationSets.map (AnnotationOffsets.entries items))

/-- The parameter annotations of all classes. -/
def parameterSets (container : Container) : List (List (List (Option AnnotationSet))) :=
  container.classes.map (·.parameterSets)

/-- The methods of all classes. -/
def methodLists (container : Container) : List (List MemberMethod) :=
  container.classes.map (·.allMethods)

/-- The written form of the directory of each class that has one. -/
def directoryPieces (container : Container) (annotations : AnnotationOffsets)
    (refLists : List Nat) : List (Option (List UInt8)) :=
  (List.zip container.classes (regroup container.parameterSets refLists)).map
    fun (classDef, refLists) =>
      classDef.annotations.map fun directory => annotations.directoryBytes directory refLists

/-- The written form of the debug information of each method that has some. -/
def debugPieces (container : Container) : List (Option (List UInt8)) :=
  container.methodLists.flatten.map fun method =>
    (method.body.bind (·.debug)).map DebugInfo.bytes

/-- The written form of the body of each method that has one. -/
def bodyPieces (container : Container) (debugOffsets : List Nat) : List (Option (List UInt8)) :=
  (List.zip container.methodLists.flatten debugOffsets).map fun (method, debugOffset) =>
    method.body.map (·.bytes debugOffset)

/-- The written form of the members of each class that has some. -/
def classDataPieces (container : Container) (bodyOffsets : List Nat) :
    List (Option (List UInt8)) :=
  (List.zip container.classes (regroup container.methodLists bodyOffsets)).map
    fun (classDef, offsets) => classDef.data.map (·.bytes offsets)

/-- The written form of each call site, and of the static values of each class that has some. -/
def arrayPieces (container : Container) : List (Option (List UInt8)) :=
  (container.callSites.map fun callSite => some (Value.arrayBytes callSite)) ++
    container.classes.map fun classDef => classDef.staticValues.map Value.arrayBytes

/-- The data of an image, one stage for each of its sections. -/
structure Data where
  strings : Stage
  typeLists : Stage
  typeTable : Std.HashMap (List UInt32) Nat
  items : Stage
  sets : Stage
  annotations : AnnotationOffsets
  refLists : Stage
  directories : Stage
  debug : Stage
  bodies : Stage
  classData : Stage
  /-- Call sites and static values. -/
  arrays : Stage
  hiddenApi : Stage

namespace Data

/-- All stages, in the order in which their sections stand. -/
def stages (data : Data) : List Stage :=
  [data.strings, data.typeLists, data.items, data.sets, data.refLists, data.directories,
    data.debug, data.bodies, data.classData, data.arrays, data.hiddenApi]

/-- The data as a whole; the map stands behind it at a multiple of four. -/
def layout (data : Data) : Layout := data.hiddenApi.layout.align 4

end Data

/-- Lays out the data of a container. -/
def data (container : Container) : Data :=
  let start : Layout := { base := container.dataOffset, bytes := #[] }
  let strings := start.stage .stringData 1 <|
    container.strings.toList.map fun string => some string.bytes
  let lists := container.typeLists
  let typeLists := strings.layout.stage .typeLists 4 <|
    lists.map fun types => some (typeListBytes types)
  let itemBytes := container.annotationItems
  let items := typeLists.layout.stage .annotations 1 (itemBytes.map some)
  let itemTable := offsetTable itemBytes items.offsets
  let entries := container.setEntries itemTable
  let sets := items.layout.stage .annotationSets 4 <|
    entries.map fun offsets => some (offsetListBytes offsets)
  let annotations : AnnotationOffsets :=
    { items := itemTable, sets := offsetTable entries sets.offsets }
  let refLists := sets.layout.stage .annotationSetRefLists 4 <|
    container.parameterSets.flatten.map fun sets => some (annotations.refListBytes sets)
  let directories := refLists.layout.stage .annotationDirectories 4 <|
    container.directoryPieces annotations refLists.offsets
  let debug := directories.layout.stage .debugInfo 1 container.debugPieces
  let bodies := debug.layout.stage .bodies 4 (container.bodyPieces debug.offsets)
  let classData := bodies.layout.stage .classData 1 (container.classDataPieces bodies.offsets)
  let arrays := classData.layout.stage .encodedArrays 1 container.arrayPieces
  let hiddenApi := arrays.layout.stage .hiddenApi 4 [container.hiddenApi.map (·.toList)]
  { strings, typeLists, typeTable := offsetTable lists typeLists.offsets, items, sets, annotations
    refLists, directories, debug, bodies, classData, arrays, hiddenApi }

/-- The tables in front of the data. -/
def tableBytes (container : Container) (data : Data) : Bytes :=
  let callSites := container.callSites.length
  let classParts := List.zip data.directories.offsets
    (List.zip data.classData.offsets (data.arrays.offsets.drop callSites))
  concatBytes data.strings.offsets le32 ++
    concatBytes container.types.toList (fun string => le32 string.toNat) ++
    concatBytes container.protos.toList
      (fun proto => proto.entryBytes (typeListOffset data.typeTable proto.parameters)) ++
    concatBytes container.fields.toList FieldId.entryBytes ++
    concatBytes container.methods.toList MethodId.entryBytes ++
    concatBytes (List.zip container.classes classParts)
      (fun (classDef, directory, classData, staticValues) =>
        classDef.entryBytes (typeListOffset data.typeTable classDef.interfaces) directory
          classData staticValues) ++
    concatBytes (data.arrays.offsets.take callSites) le32 ++
    concatBytes container.methodHandles MethodHandle.entryBytes

/-- The part of the header behind the digests. -/
def headerFields (container : Container) (fileSize mapOffset : Nat) : List UInt8 :=
  let idTable (entry : Section) : List UInt8 :=
    le32 entry.count ++ le32 (if entry.count = 0 then 0 else entry.offset)
  le32 fileSize ++ le32 Header.size ++ le32 Header.endianTag.toNat ++ le32 0 ++ le32 0 ++
    le32 mapOffset ++
    ((tableSections Header.size container.tables).take 6).flatMap idTable ++
    le32 (fileSize - container.dataOffset) ++ le32 container.dataOffset

/-- The sections of an image whose data is laid out; empty ones are not listed. -/
def sections (container : Container) (data : Data) : List Section :=
  let header : Section := { kind := .header, count := 1, offset := 0 }
  let map : Section := { kind := .mapList, count := 1, offset := data.layout.position }
  (header :: tableSections Header.size container.tables ++ data.stages.map (·.entry) ++
    [map]).filter fun entry => entry.count ≠ 0

/-- The image of a container that is in canonical order and representable. -/
def image (container : Container) : Bytes :=
  let data := container.data
  let map := mapBytes (container.sections data)
  let mapOffset := data.layout.position
  sealed container.version <|
    (container.headerFields (mapOffset + map.length) mapOffset).toArray ++
      container.tableBytes data ++ data.layout.bytes ++ map

/-- The image of a container, if it has one. -/
def encode (container : Container) : Except EncodeError Bytes := do
  container.checkRefs container.poolRefs
  let renumbering := Renumbering.ofContainer container
  container.check renumbering
  return (container.renumbered renumbering).arranged.image

end Container

end DexPatch
