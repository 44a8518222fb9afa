import DexPatch.Image.ValueWriter
import DexPatch.Image.Writer

namespace DexPatch

/-!
# Writing annotations in passes

Annotations are written in four passes over all directories: the annotations
themselves, the sets of them, the lists of the sets of parameters, and the
directories.  Equal annotations share one place, and so do equal sets.  Each
pass works out anew what the one before it has written, and asks for the
offset under the bytes of an annotation or the entries of a set.
-/

/-- Why annotations cannot be written. -/
inductive AnnotationError where
  | refused (reason : EncodeError)
  /-- An annotation of so many bytes is asked for that is not written. -/
  | unwrittenItem (length : Nat)
  /-- A set of so many annotations is asked for that is not written. -/
  | unwrittenSet (length : Nat)
deriving DecidableEq, Repr

/-- The data so far, and the offset of each piece in it that can be shared. -/
structure Shared (α : Type) [BEq α] [Hashable α] where
  layout : Layout
  offsets : Std.HashMap α Nat

/-- Puts the piece of a key at a multiple of a unit, unless an equal key has one. -/
def Shared.put {α : Type} [BEq α] [Hashable α] (unit : Nat) (piece : α → List UInt8)
    (shared : Shared α) (key : α) : Shared α :=
  if shared.offsets.contains key then
    shared
  else
    let aligned := shared.layout.align unit
    { layout := aligned.append (piece key)
      offsets := shared.offsets.insert key aligned.position }

/-- A step that puts pieces behind what is there. -/
abbrev Placing := StateT Layout (Except AnnotationError)

/-- Puts a piece at a multiple of four, and gives the offset of it. -/
def placeAligned (piece : List UInt8) : Placing Nat := do
  modify (·.align 4)
  let offset := (← get).position
  modify (·.append piece)
  return offset

namespace NewNumbers

/-- A directory under the new numbers of its members, in their order. -/
def prepare (numbers : NewNumbers) (directory : AnnotationDirectory) :
    Except EncodeError AnnotationDirectory := do
  let ofFields ← directory.ofFields.mapM fun (field, set) => do
    return (← numbers.lookUp .field field, set)
  let ofMethods ← directory.ofMethods.mapM fun (method, set) => do
    return (← numbers.lookUp .method method, set)
  let ofParameters ← directory.ofParameters.mapM fun (method, sets) => do
    return (← numbers.lookUp .method method, sets)
  return AnnotationDirectory.membersArranged
    { ofClass := directory.ofClass, ofFields, ofMethods, ofParameters }

/-- The written form of an annotation. -/
def itemBytes (numbers : NewNumbers) (item : AnnotationItem) : Except EncodeError (List UInt8) := do
  return item.visibility ::
    (← numbers.annotationBytes item.type (numbers.elementsBytes item.elements))

/-- The written forms of the annotations of a set, in the order of the new numbers of their
types. -/
def sortedItems (numbers : NewNumbers) (set : AnnotationSet) :
    Except EncodeError (List (List UInt8)) := do
  let items ← List.mapM (fun item : AnnotationItem => do
    return (← numbers.lookUp .type item.type, ← numbers.itemBytes item)) set
  return (sortOn (·.1) items).map (·.2)

/-! ## The passes over one directory -/

/-- Writes the annotations of all sets of a directory. -/
def writeItems (numbers : NewNumbers) (items : Shared (List UInt8))
    (directory : AnnotationDirectory) : Except AnnotationError (Shared (List UInt8)) :=
  directory.sets.foldlM (fun items set => do
    return (← (numbers.sortedItems set).mapError .refused).foldl (Shared.put 1 id) items) items

/-- The offsets of the annotations of a set. -/
def setEntries (numbers : NewNumbers) (items : Std.HashMap (List UInt8) Nat)
    (set : AnnotationSet) : Except AnnotationError (List Nat) := do
  (← (numbers.sortedItems set).mapError .refused).mapM fun bytes =>
    match items[bytes]? with
    | some offset => .ok offset
    | none => .error (.unwrittenItem bytes.length)

/-- Writes all sets of a directory. -/
def writeSets (numbers : NewNumbers) (items : Std.HashMap (List UInt8) Nat)
    (sets : Shared (List Nat)) (directory : AnnotationDirectory) :
    Except AnnotationError (Shared (List Nat)) :=
  directory.sets.foldlM (fun sets set => do
    return sets.put 4 offsetListBytes (← numbers.setEntries items set)) sets

/-- The offset of a set. -/
def setOffset (numbers : NewNumbers) (offsets : AnnotationOffsets) (set : AnnotationSet) :
    Except AnnotationError Nat := do
  let entries ← numbers.setEntries offsets.items set
  match offsets.sets[entries]? with
  | some offset => .ok offset
  | none => .error (.unwrittenSet entries.length)

/-- The offset of a set, or zero for an absent one. -/
def optionalSetOffset (numbers : NewNumbers) (offsets : AnnotationOffsets) :
    Option AnnotationSet → Except AnnotationError Nat
  | some set => numbers.setOffset offsets set
  | none => return 0

/-- The offsets of the sets of a list. -/
def listOffsets (numbers : NewNumbers) (offsets : AnnotationOffsets)
    (sets : List (Option AnnotationSet)) : Except AnnotationError (List Nat) :=
  sets.mapM (numbers.optionalSetOffset offsets)

/-- Members with the offsets of their sets. -/
def memberOffsets (numbers : NewNumbers) (offsets : AnnotationOffsets)
    (members : List (UInt32 × AnnotationSet)) : Except AnnotationError (List (UInt32 × Nat)) :=
  members.mapM fun (member, set) => do
    return (member, ← numbers.setOffset offsets set)

/-- Writes the list of sets of each annotated method, and gives the offsets of the lists. -/
def writeRefLists (numbers : NewNumbers) (offsets : AnnotationOffsets)
    (directory : AnnotationDirectory) : Placing (List Nat) :=
  directory.ofParameters.mapM fun (_, sets) => do
    placeAligned (offsetListBytes (← numbers.listOffsets offsets sets))

/-- Writes a directory whose lists of sets are at some offsets. -/
def writeDirectory (numbers : NewNumbers) (offsets : AnnotationOffsets)
    (directory : AnnotationDirectory) (refLists : List Nat) : Placing Nat := do
  let ofClass ← numbers.optionalSetOffset offsets directory.ofClass
  let fields ← numbers.memberOffsets offsets directory.ofFields
  let methods ← numbers.memberOffsets offsets directory.ofMethods
  let parameters := List.zip (directory.ofParameters.map (·.1)) refLists
  placeAligned <|
    le32 ofClass ++ le32 fields.length ++ le32 methods.length ++
      le32 directory.ofParameters.length ++ memberOffsetsBytes (fields ++ methods ++ parameters)

end NewNumbers

/-! ## The passes over all directories -/

/-- What the passes leave behind. -/
structure AnnotationPasses where
  items : Shared (List UInt8)
  sets : Shared (List Nat)
  /-- The offset of each directory, or zero for an absent one. -/
  directories : List Nat
  layout : Layout

namespace NewNumbers

/-- All directories under the new numbers of their members. -/
def prepareAll (numbers : NewNumbers) (directories : List (Option AnnotationDirectory)) :
    Except EncodeError (List (Option AnnotationDirectory)) :=
  directories.mapM fun directory => directory.mapM numbers.prepare

/-- Writes the lists of sets of all directories. -/
def writeAllRefLists (numbers : NewNumbers) (offsets : AnnotationOffsets)
    (directories : List (Option AnnotationDirectory)) : Placing (List (List Nat)) :=
  directories.mapM fun
    | some directory => numbers.writeRefLists offsets directory
    | none => return []

/-- Writes all directories, each with the offsets of its lists of sets. -/
def writeAllDirectories (numbers : NewNumbers) (offsets : AnnotationOffsets)
    (directories : List (Option AnnotationDirectory × List Nat)) : Placing (List Nat) :=
  directories.mapM fun
    | (some directory, refLists) => numbers.writeDirectory offsets directory refLists
    | (none, _) => return 0

/-- The passes behind the one over annotations. -/
def writeBehindItems (numbers : NewNumbers) (directories : List (Option AnnotationDirectory))
    (items : Shared (List UInt8)) : Except AnnotationError AnnotationPasses := do
  let sets ← (directories.filterMap id).foldlM (numbers.writeSets items.offsets)
    { layout := items.layout.align 4, offsets := ∅ }
  let offsets : AnnotationOffsets := { items := items.offsets, sets := sets.offsets }
  let (refLists, layout) ←
    (numbers.writeAllRefLists offsets directories).run (sets.layout.align 4)
  let (directories, layout) ←
    (numbers.writeAllDirectories offsets (List.zip directories refLists)).run (layout.align 4)
  return { items, sets, directories, layout }

/-- Writes the annotations of all directories behind what is there. -/
def writeAnnotations (numbers : NewNumbers) (start : Layout)
    (directories : List (Option AnnotationDirectory)) :
    Except AnnotationError AnnotationPasses := do
  let prepared ← (numbers.prepareAll directories).mapError .refused
  let items ← (prepared.filterMap id).foldlM numbers.writeItems { layout := start, offsets := ∅ }
  numbers.writeBehindItems prepared items

end NewNumbers

end DexPatch
