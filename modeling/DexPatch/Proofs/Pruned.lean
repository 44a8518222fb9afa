import DexPatch.Proofs.Writable

namespace DexPatch

/-!
# Handlers that nothing leads to

The handlers of a body are written behind its try ranges, and not at all if
there are none.  So a container has the same image whether such a body has
handlers or not.
-/

/-! ## Changing all bodies -/

/-- The method with its body changed. -/
def MemberMethod.mapBody (change : Body → Body) (method : MemberMethod) : MemberMethod :=
  { method with body := method.body.map change }

/-- The members with all bodies changed. -/
def ClassData.mapBodies (change : Body → Body) (data : ClassData) : ClassData :=
  { data with
    directMethods := data.directMethods.map (MemberMethod.mapBody change)
    virtualMethods := data.virtualMethods.map (MemberMethod.mapBody change) }

/-- The class with all bodies changed. -/
def ClassDef.mapBodies (change : Body → Body) (classDef : ClassDef) : ClassDef :=
  { classDef with data := classDef.data.map (ClassData.mapBodies change) }

/-- The container with all bodies changed. -/
def Container.mapBodies (change : Body → Body) (container : Container) : Container :=
  { container with classes := container.classes.map (ClassDef.mapBodies change) }

section MapBodies

variable {change : Body → Body}

theorem ClassData.allMethods_mapBodies (data : ClassData) :
    (data.mapBodies change).allMethods = data.allMethods.map (MemberMethod.mapBody change) :=
  List.map_append.symm

theorem ClassDef.allMethods_mapBodies (classDef : ClassDef) :
    (classDef.mapBodies change).allMethods =
      classDef.allMethods.map (MemberMethod.mapBody change) := by
  cases isData : classDef.data with
  | none => simp [allMethods, mapBodies, isData]
  | some data => simp [allMethods, mapBodies, isData, data.allMethods_mapBodies]

/-- The bodies are the changed ones. -/
theorem Container.forall_bodies_mapBodies
    {container : Container}
    {holds : Body → Prop} :
    (∀ classDef ∈ (container.mapBodies change).classes, ∀ method ∈ classDef.allMethods,
        ∀ body ∈ method.body, holds body) ↔
      ∀ classDef ∈ container.classes, ∀ method ∈ classDef.allMethods, ∀ body ∈ method.body,
        holds (change body) := by
  simp only [mapBodies, List.forall_mem_map, ClassDef.allMethods_mapBodies,
    MemberMethod.mapBody, Option.mem_def, Option.map_eq_some_iff, forall_exists_index, and_imp,
    forall_apply_eq_imp_iff₂]

/-! ## In canonical order -/

theorem ClassDef.arranged_mapBodies (classDef : ClassDef) :
    (classDef.mapBodies change).arranged = classDef.arranged.mapBodies change := by
  have sameNumber (method : MemberMethod) : (method.mapBody change).method = method.method := rfl
  have methods (list : List MemberMethod) :
      sortOn MemberMethod.method (list.map (MemberMethod.mapBody change)) =
        (sortOn MemberMethod.method list).map (MemberMethod.mapBody change) :=
    sortOn_map MemberMethod.method sameNumber list
  cases isData : classDef.data with
  | none => simp [arranged, mapBodies, isData]
  | some data =>
      simp [arranged, mapBodies, isData, ClassData.arranged, ClassData.mapBodies, methods]

variable {renumber : RefMap}

theorem ClassDef.mapRefs_mapBodies
    (commutes : ∀ body : Body, (change body).mapRefs renumber = change (body.mapRefs renumber))
    (classDef : ClassDef) :
    (classDef.mapBodies change).mapRefs renumber =
      (classDef.mapRefs renumber).mapBodies change := by
  have one : Body.mapRefs renumber ∘ change = change ∘ Body.mapRefs renumber := funext commutes
  have methods :
      MemberMethod.mapRefs renumber ∘ MemberMethod.mapBody change =
        MemberMethod.mapBody change ∘ MemberMethod.mapRefs renumber := by
    funext method
    simp [MemberMethod.mapRefs, MemberMethod.mapBody, one]
  cases isData : classDef.data with
  | none => simp [mapRefs, mapBodies, isData]
  | some data => simp [mapRefs, mapBodies, isData, ClassData.mapRefs, ClassData.mapBodies, methods]

namespace Container

variable {container : Container}

theorem renumbered_mapBodies
    (renumbering : Renumbering)
    (commutes :
      ∀ body : Body, (change body).mapRefs renumbering.map = change (body.mapRefs renumbering.map)) :
    (container.mapBodies change).renumbered renumbering =
      (container.renumbered renumbering).mapBodies change := by
  have classes :
      (container.classes.map (ClassDef.mapBodies change)).map (ClassDef.mapRefs renumbering.map) =
        (container.classes.map (ClassDef.mapRefs renumbering.map)).map
          (ClassDef.mapBodies change) := by
    rw [List.map_map, List.map_map]
    exact List.map_congr_left fun classDef _ => classDef.mapRefs_mapBodies commutes
  simp only [renumbered, permutePools, mapRefs, mapBodies, classes]

theorem canonical_mapBodies
    (commutes :
      ∀ (renumber : RefMap) (body : Body),
        (change body).mapRefs renumber = change (body.mapRefs renumber)) :
    (container.mapBodies change).canonical = container.canonical.mapBodies change := by
  have same : Renumbering.ofContainer (container.mapBodies change) =
      Renumbering.ofContainer container := rfl
  rw [canonical, canonical, same, renumbered_mapBodies _ (commutes _)]
  have arranged :
      ((container.renumbered (Renumbering.ofContainer container)).classes.map
          (ClassDef.mapBodies change)).map ClassDef.arranged =
        ((container.renumbered (Renumbering.ofContainer container)).classes.map
          ClassDef.arranged).map (ClassDef.mapBodies change) := by
    rw [List.map_map, List.map_map]
    exact List.map_congr_left fun classDef _ => classDef.arranged_mapBodies
  simp only [Container.arranged, mapBodies, arranged]

/-! ## In an image -/

theorem methodLists_mapBodies :
    (container.mapBodies change).methodLists =
      container.methodLists.map (List.map (MemberMethod.mapBody change)) := by
  simp only [methodLists, mapBodies, List.map_map]
  exact List.map_congr_left fun classDef _ => classDef.allMethods_mapBodies

theorem directories_mapBodies :
    (container.mapBodies change).directories = container.directories := by
  simp only [directories, mapBodies, List.filterMap_map]
  rfl

section SameBytes

variable
  (sameDebug : ∀ body : Body, (change body).debug = body.debug)
  (sameBytes : ∀ (body : Body) (offset : Nat), (change body).bytes offset = body.bytes offset)

include sameDebug in
theorem debugPieces_mapBodies :
    (container.mapBodies change).debugPieces = container.debugPieces := by
  simp only [debugPieces, methodLists_mapBodies, ← List.map_flatten, List.map_map]
  refine List.map_congr_left fun method _ => ?_
  cases isBody : method.body <;> simp [MemberMethod.mapBody, isBody, sameDebug]

include sameBytes in
theorem bodyPieces_mapBodies (offsets : List Nat) :
    (container.mapBodies change).bodyPieces offsets = container.bodyPieces offsets := by
  simp only [bodyPieces, methodLists_mapBodies, ← List.map_flatten, List.zip_map_left,
    List.map_map]
  refine List.map_congr_left fun beside _ => ?_
  cases isBody : beside.1.body <;> simp [MemberMethod.mapBody, isBody, sameBytes]

theorem listBytes_mapBody (methods : List MemberMethod) (offsets : List Nat) :
    MemberMethod.listBytes (methods.map (MemberMethod.mapBody change)) offsets =
      MemberMethod.listBytes methods offsets := by
  have numbers :
      (methods.map (MemberMethod.mapBody change)).map (·.method) = methods.map (·.method) := by
    rw [List.map_map]
    rfl
  simp only [MemberMethod.listBytes, numbers, List.zip_map_left, List.zip_map_right,
    List.flatMap_map]
  rfl

theorem classDataPieces_mapBodies (offsets : List Nat) :
    (container.mapBodies change).classDataPieces offsets = container.classDataPieces offsets := by
  have sameData (data : ClassData) (offsets : List Nat) :
      (data.mapBodies change).bytes offsets = data.bytes offsets := by
    simp only [ClassData.bytes, ClassData.mapBodies, List.length_map, listBytes_mapBody]
  simp only [classDataPieces, methodLists_mapBodies, regroup_map]
  simp only [mapBodies, List.zip_map_left, List.map_map]
  refine List.map_congr_left fun beside _ => ?_
  cases isData : beside.1.data <;> simp [ClassDef.mapBodies, isData, sameData]

include sameDebug sameBytes

/-- The data is laid out as before. -/
theorem data_mapBodies : (container.mapBodies change).data = container.data := by
  have dataOffset : (container.mapBodies change).dataOffset = container.dataOffset := by
    simp only [Container.dataOffset, tables, mapBodies, List.length_map]
  have typeLists : (container.mapBodies change).typeLists = container.typeLists := by
    simp only [Container.typeLists, mapBodies, List.map_map]
    rfl
  have annotationSets : (container.mapBodies change).annotationSets = container.annotationSets := by
    simp only [Container.annotationSets, directories_mapBodies]
  have parameterSets : (container.mapBodies change).parameterSets = container.parameterSets := by
    simp only [Container.parameterSets, mapBodies, List.map_map]
    rfl
  have directoryPieces (annotations : AnnotationOffsets) (refLists : List Nat) :
      (container.mapBodies change).directoryPieces annotations refLists =
        container.directoryPieces annotations refLists := by
    simp only [Container.directoryPieces, parameterSets]
    simp only [mapBodies, List.zip_map_left, List.map_map]
    rfl
  have arrayPieces : (container.mapBodies change).arrayPieces = container.arrayPieces := by
    simp only [Container.arrayPieces, mapBodies, List.map_map]
    rfl
  simp only [data, dataOffset, typeLists, annotationItems, setEntries, annotationSets,
    parameterSets, directoryPieces, debugPieces_mapBodies sameDebug,
    bodyPieces_mapBodies sameBytes, classDataPieces_mapBodies, arrayPieces]
  rfl

/-- A container has the same image with all bodies changed if each is written as before. -/
theorem image_mapBodies : (container.mapBodies change).image = container.image := by
  have data : (container.mapBodies change).data = container.data :=
    data_mapBodies sameDebug sameBytes
  have tables : (container.mapBodies change).tables = container.tables := by
    simp only [Container.tables, mapBodies, List.length_map]
  have tableBytes (data : Data) :
      (container.mapBodies change).tableBytes data = container.tableBytes data := by
    simp only [Container.tableBytes, mapBodies, List.zip_map_left, concatBytes, List.foldl_map]
    rfl
  simp only [image, data, headerFields, dataOffset, sections, tables, tableBytes]
  rfl

end SameBytes

end Container

end MapBodies

/-! ## Bodies without try ranges -/

namespace Body

/-- The body without handlers if it has no try range that could lead to one. -/
def pruned (body : Body) : Body :=
  { body with handlers := if body.tries.isEmpty then [] else body.handlers }

theorem pruned_of_guarded
    {body : Body}
    (guarded : body.tries ≠ []) :
    body.pruned = body := by
  rw [pruned, if_neg (by simpa using guarded)]

variable (body : Body)

theorem mapRefs_pruned (renumber : RefMap) :
    body.pruned.mapRefs renumber = (body.mapRefs renumber).pruned := by
  cases ranges : body.tries <;> simp [mapRefs, pruned, ranges]

theorem bytes_pruned (offset : Nat) : body.pruned.bytes offset = body.bytes offset := by
  by_cases guarded : body.tries = []
  · simp [bytes, tryBytes, pruned, guarded]
  · rw [pruned_of_guarded guarded]

theorem writtenRefs_pruned : body.pruned.writtenRefs = body.writtenRefs := by
  by_cases guarded : body.tries = []
  · simp [writtenRefs, pruned, guarded]
  · rw [pruned_of_guarded guarded]

variable {body}

theorem Complete.pruned
    {renumber : RefMap}
    (complete : body.Complete renumber) :
    body.pruned.Complete renumber := by
  by_cases guarded : body.tries = []
  · refine ⟨complete.code, fun range member => ?_⟩
    rw [show body.pruned.tries = [] from guarded] at member
    cases member
  · rwa [pruned_of_guarded guarded]

end Body

namespace Container

variable {container : Container}

/-- The container without the handlers that nothing leads to. -/
def pruned (container : Container) : Container := container.mapBodies Body.pruned

theorem canonical_pruned : container.pruned.canonical = container.canonical.pruned :=
  canonical_mapBodies fun renumber body => body.mapRefs_pruned renumber

theorem image_pruned : container.pruned.image = container.image :=
  image_mapBodies (fun _ => rfl) Body.bytes_pruned

/-- What is written refers to what it referred to. -/
theorem writtenRefs_pruned : container.pruned.writtenRefs = container.writtenRefs := by
  have heads :
      container.pruned.classes.flatMap ClassDef.headRefs =
        container.classes.flatMap ClassDef.headRefs := by
    simp only [pruned, mapBodies, List.flatMap_map]
    rfl
  have parts :
      container.pruned.classes.flatMap ClassDef.partRefs =
        container.classes.flatMap ClassDef.partRefs := by
    simp only [pruned, mapBodies, List.flatMap_map]
    refine List.flatMap_congr fun classDef _ => ?_
    have members : ClassData.memberRefs ∘ ClassData.mapBodies Body.pruned = ClassData.memberRefs := by
      funext data
      simp [ClassData.memberRefs, ClassData.mapBodies, MemberMethod.mapBody, Function.comp_def]
    simp only [ClassDef.partRefs, ClassDef.mapBodies, Option.map_map, members]
  have bodies :
      container.pruned.classes.flatMap ClassDef.bodyRefs =
        container.classes.flatMap ClassDef.bodyRefs := by
    simp only [pruned, mapBodies, List.flatMap_map]
    refine List.flatMap_congr fun classDef _ => ?_
    have written : Body.writtenRefs ∘ Body.pruned = Body.writtenRefs :=
      funext Body.writtenRefs_pruned
    simp only [ClassDef.bodyRefs, ClassDef.allMethods_mapBodies, List.flatMap_map,
      MemberMethod.mapBody, Option.map_map, written]
  simp only [writtenRefs, heads, parts, bodies]
  rfl

/-- What is encoded is encoded alike without the handlers that nothing leads to. -/
theorem encode_pruned
    {image : Bytes}
    (encoded : container.encode = .ok image) :
    container.pruned.encode = .ok image := by
  obtain ⟨pools, checked, rfl⟩ := encode_eq_ok_iff.mp encoded
  have writable :=
    (checked_iff_writable (Renumbering.covers_ofContainer container)).mp ⟨pools, checked⟩
  have writablePruned : container.pruned.Writable (Renumbering.ofContainer container).map := by
    refine ⟨?_, forall_bodies_mapBodies.mpr fun classDef isClass method isMethod body isBody => ?_⟩
    · rw [writtenRefs_pruned]
      exact fun ref refers => ⟨(writable.references ref refers).1, (writable.references ref refers).2⟩
    · exact (writable.bodies classDef isClass method isMethod body isBody).pruned
  obtain ⟨poolsPruned, checkedPruned⟩ :=
    (checked_iff_writable (Renumbering.covers_ofContainer container.pruned)).mpr writablePruned
  refine encode_eq_ok_iff.mpr ⟨poolsPruned, checkedPruned, ?_⟩
  rw [canonical_pruned, image_pruned]

end Container

end DexPatch
