import DexPatch.Renumber.Order

namespace DexPatch

/-!
# Member lists in canonical order

The members of a class, its annotation lists, the annotations of a set and the
elements of an annotation stand in the order of the numbers they are listed
under.  Those with equal numbers keep their order.
-/

mutual

/-- A value with the elements of all annotations in it ordered by name. -/
def Value.arranged : Value → Value
  | .array items => .array (Value.arrangedItems items)
  | .annotated index elements =>
    .annotated index (sortOn (·.1) (Value.arrangedElements elements))
  | .byte value => .byte value
  | .short value => .short value
  | .char value => .char value
  | .int value => .int value
  | .long value => .long value
  | .float bits => .float bits
  | .double bits => .double bits
  | .methodType index => .methodType index
  | .methodHandle index => .methodHandle index
  | .string index => .string index
  | .type index => .type index
  | .field index => .field index
  | .method index => .method index
  | .enum index => .enum index
  | .null => .null
  | .boolean value => .boolean value

/-- A list of values, each arranged. -/
def Value.arrangedItems : List Value → List Value
  | [] => []
  | item :: rest => item.arranged :: Value.arrangedItems rest

/-- Named values, each arranged, in their own order. -/
def Value.arrangedElements : List (UInt32 × Value) → List (UInt32 × Value)
  | [] => []
  | (name, value) :: rest => (name, value.arranged) :: Value.arrangedElements rest

end

/-- An annotation with its elements ordered by name. -/
def AnnotationItem.arranged (item : AnnotationItem) : AnnotationItem :=
  { item with elements := sortOn (·.1) (Value.arrangedElements item.elements) }

/-- A set of annotations ordered by type. -/
def AnnotationSet.arranged (set : AnnotationSet) : AnnotationSet :=
  sortOn AnnotationItem.type (List.map AnnotationItem.arranged set)

namespace AnnotationDirectory

/-- The lists of annotated members ordered by member. -/
def membersArranged (directory : AnnotationDirectory) : AnnotationDirectory :=
  { ofClass := directory.ofClass
    ofFields := sortOn (·.1) directory.ofFields
    ofMethods := sortOn (·.1) directory.ofMethods
    ofParameters := sortOn (·.1) directory.ofParameters }

/-- The directory with every set replaced. -/
def mapSets (change : AnnotationSet → AnnotationSet) (directory : AnnotationDirectory) :
    AnnotationDirectory :=
  { ofClass := directory.ofClass.map change
    ofFields := directory.ofFields.map fun (field, set) => (field, change set)
    ofMethods := directory.ofMethods.map fun (method, set) => (method, change set)
    ofParameters := directory.ofParameters.map fun (method, sets) =>
      (method, sets.map (·.map change)) }

/-- All sets of a directory, in the order in which they are written. -/
def sets (directory : AnnotationDirectory) : List AnnotationSet :=
  directory.ofClass.toList ++ directory.ofFields.map (·.2) ++ directory.ofMethods.map (·.2) ++
    directory.ofParameters.flatMap fun (_, sets) => sets.filterMap id

/-- The directory in canonical order throughout. -/
def arranged (directory : AnnotationDirectory) : AnnotationDirectory :=
  directory.membersArranged.mapSets AnnotationSet.arranged

end AnnotationDirectory

/-- The members of a class ordered by number. -/
def ClassData.arranged (data : ClassData) : ClassData :=
  { staticFields := sortOn MemberField.field data.staticFields
    instanceFields := sortOn MemberField.field data.instanceFields
    directMethods := sortOn MemberMethod.method data.directMethods
    virtualMethods := sortOn MemberMethod.method data.virtualMethods }

/-- The methods of a class in the order in which their bodies are written. -/
def ClassData.allMethods (data : ClassData) : List MemberMethod :=
  data.directMethods ++ data.virtualMethods

/-- A class with all its lists in canonical order. -/
def ClassDef.arranged (classDef : ClassDef) : ClassDef :=
  { classDef with
    annotations := classDef.annotations.map AnnotationDirectory.arranged
    data := classDef.data.map ClassData.arranged
    staticValues := classDef.staticValues.map Value.arrangedItems }

/-- A container with all its member lists in canonical order. -/
def Container.arranged (container : Container) : Container :=
  { container with
    classes := container.classes.map ClassDef.arranged
    callSites := container.callSites.map Value.arrangedItems }

end DexPatch
