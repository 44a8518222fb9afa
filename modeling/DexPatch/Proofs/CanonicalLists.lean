import DexPatch.Proofs.Renumbered

namespace DexPatch

/-!
# Containers with ordered lists

Putting the lists of a container in order moves members, annotations and their
elements, and changes nothing that a check looks at.  Lists in order stay as
they are, so this has no effect when it is done again.
-/

namespace AnnotationDirectory

variable {directory : AnnotationDirectory}

theorem sets_mapSets (change : AnnotationSet → AnnotationSet) :
    (directory.mapSets change).sets = directory.sets.map change := by
  cases isSet : directory.ofClass <;>
    simp [mapSets, sets, List.map_flatMap, List.flatMap_map, List.filterMap_map,
      List.map_filterMap, Function.comp_def, isSet]

theorem sets_membersArranged_perm : directory.membersArranged.sets.Perm directory.sets :=
  ((List.Perm.append_left _ ((sortOn_perm _ _).map _)).append ((sortOn_perm _ _).map _)).append
    ((sortOn_perm _ _).flatMap_right _)

/-- What a directory refers to, in any order. -/
theorem mem_annotationRefs {ref : Reference} :
    ref ∈ directory.annotationRefs ↔
      ∃ set ∈ directory.sets, ∃ item ∈ (set : List AnnotationItem), ref ∈ item.refs := by
  simp only [annotationRefs, List.mem_flatMap, sets_membersArranged_perm.mem_iff]

theorem mem_annotationRefs_arranged {ref : Reference} :
    ref ∈ directory.arranged.annotationRefs ↔ ref ∈ directory.annotationRefs := by
  simp only [mem_annotationRefs, arranged, sets_mapSets, List.mem_map,
    sets_membersArranged_perm.mem_iff]
  constructor
  · rintro ⟨_, ⟨set, isSet, rfl⟩, item, isItem, refers⟩
    obtain ⟨old, isOld, rfl⟩ := List.mem_map.mp (Value.mem_sortOn.mp isItem)
    exact ⟨set, isSet, old, isOld, AnnotationItem.mem_refs_arranged.mp refers⟩
  · rintro ⟨set, isSet, item, isItem, refers⟩
    exact ⟨_, ⟨set, isSet, rfl⟩, item.arranged,
      Value.mem_sortOn.mpr (List.mem_map_of_mem isItem),
      AnnotationItem.mem_refs_arranged.mpr refers⟩

theorem mem_memberRefs_arranged {ref : Reference} :
    ref ∈ directory.arranged.memberRefs ↔ ref ∈ directory.memberRefs := by
  simp [memberRefs, arranged, mapSets, membersArranged, Value.mem_sortOn, Function.comp_def]

end AnnotationDirectory

namespace ClassData

variable {data : ClassData}

theorem mem_memberRefs_arranged {ref : Reference} :
    ref ∈ data.arranged.memberRefs ↔ ref ∈ data.memberRefs := by
  simp [memberRefs, arranged, Value.mem_sortOn]

theorem mem_allMethods_arranged {method : MemberMethod} :
    method ∈ data.arranged.allMethods ↔ method ∈ data.allMethods := by
  simp [allMethods, arranged, Value.mem_sortOn]

end ClassData

theorem ClassDef.mem_allMethods_arranged
    {classDef : ClassDef}
    {method : MemberMethod} :
    method ∈ classDef.arranged.allMethods ↔ method ∈ classDef.allMethods := by
  cases isData : classDef.data with
  | none =>
      simp [allMethods, arranged, isData]
  | some data =>
      simp [allMethods, arranged, isData, ClassData.mem_allMethods_arranged]

theorem Value.mem_refsItems_arranged
    {items : List Value}
    {ref : Reference} :
    ref ∈ refsItems (arrangedItems items) ↔ ref ∈ refsItems items := by
  simp only [arrangedItems_eq, refsItems_eq, List.flatMap_map, List.mem_flatMap,
    mem_refs_arranged]

namespace Container

variable {container : Container}

theorem poolSize_arranged (pool : Pool) :
    container.arranged.poolSize pool = container.poolSize pool := by
  cases pool with
  | callSite => exact List.length_map _
  | _ => rfl

theorem leads_arranged {ref : Reference} : container.arranged.Leads ref ↔ container.Leads ref := by
  rw [Leads, Leads, poolSize_arranged]

/-- A body fits wherever the same references lead somewhere. -/
theorem BodyFits.mono
    {other : Container}
    {renumber : RefMap}
    {body : Body}
    (fits : container.BodyFits renumber body)
    (leads : ∀ ref, container.Leads ref → other.Leads ref) :
    other.BodyFits renumber body :=
  { fits with
    operands := fun instruction member ref refers =>
      leads _ (fits.operands instruction member ref refers)
    handlers := fun guarded handler member ref refers =>
      leads ref (fits.handlers guarded handler member ref refers) }

/-- Putting lists in order keeps a container one that is written as it is. -/
theorem Representable.arranged (representable : container.Representable) :
    container.arranged.Representable := by
  have leads (ref : Reference) : container.arranged.Leads ref ↔ container.Leads ref :=
    leads_arranged
  have annotations {classDef : ClassDef} {holds : AnnotationDirectory → Prop} :
      (∀ directory ∈ classDef.arranged.annotations, holds directory) ↔
        ∀ directory ∈ classDef.annotations, holds directory.arranged := by
    simp [ClassDef.arranged]
  refine
    { parameters := ?_, interfaces := ?_, annotatedMembers := ?_, annotations := ?_
      members := ?_, debug := ?_, bodies := ?_, callSites := ?_, staticValues := ?_
      fields := ?_, methods := ?_, types := ?_, superclasses := ?_, sourceFiles := ?_
      handles := ?_, pools := ?_ }
  all_goals try simp only [leads]
  · exact representable.parameters
  · exact List.forall_mem_map.mpr representable.interfaces
  · refine List.forall_mem_map.mpr fun classDef isClass => annotations.mpr ?_
    intro directory isDirectory ref refers
    exact representable.annotatedMembers classDef isClass directory isDirectory ref
      (AnnotationDirectory.mem_memberRefs_arranged.mp refers)
  · refine List.forall_mem_map.mpr fun classDef isClass => annotations.mpr ?_
    intro directory isDirectory ref refers
    exact representable.annotations classDef isClass directory isDirectory ref
      (AnnotationDirectory.mem_annotationRefs_arranged.mp refers)
  · refine List.forall_mem_map.mpr fun classDef isClass data isData ref refers => ?_
    obtain ⟨old, isOld, rfl⟩ := Option.map_eq_some_iff.mp isData
    exact representable.members classDef isClass old isOld ref
      (ClassData.mem_memberRefs_arranged.mp refers)
  · refine List.forall_mem_map.mpr fun classDef isClass method isMethod => ?_
    exact representable.debug classDef isClass method
      (ClassDef.mem_allMethods_arranged.mp isMethod)
  · refine List.forall_mem_map.mpr fun classDef isClass method isMethod body isBody => ?_
    have fits :=
      representable.bodies classDef isClass method
        (ClassDef.mem_allMethods_arranged.mp isMethod) body isBody
    exact fits.mono fun ref => (leads ref).mpr
  · refine List.forall_mem_map.mpr fun callSite isCallSite ref refers => ?_
    exact representable.callSites callSite isCallSite ref
      (Value.mem_refsItems_arranged.mp refers)
  · refine List.forall_mem_map.mpr fun classDef isClass values isValues ref refers => ?_
    obtain ⟨old, isOld, rfl⟩ := Option.map_eq_some_iff.mp isValues
    exact representable.staticValues classDef isClass old isOld ref
      (Value.mem_refsItems_arranged.mp refers)
  · exact representable.fields
  · exact representable.methods
  · exact List.forall_mem_map.mpr representable.types
  · exact List.forall_mem_map.mpr representable.superclasses
  · exact List.forall_mem_map.mpr representable.sourceFiles
  · exact representable.handles
  · exact representable.pools

end Container

/-! ## Lists that are in order already -/

theorem sortOn_sortOn
    {α : Type}
    (key : α → UInt32)
    (list : List α) :
    sortOn key (sortOn key list) = sortOn key list :=
  sortOn_of_pairwise key (pairwise_sortOn key list)

/-- Keyed elements can be changed before they are sorted, or after. -/
theorem sortOn_map_snd
    {α β : Type}
    (change : α → β)
    (list : List (UInt32 × α)) :
    sortOn (·.1) (list.map fun (key, x) => (key, change x)) =
      (sortOn (·.1) list).map fun (key, x) => (key, change x) :=
  sortOn_map _ (fun _ => rfl) list

theorem Value.arranged_arranged (value : Value) : value.arranged.arranged = value.arranged := by
  induction value using nestedInduction with
  | step value inductionHypothesis =>
      cases value with
      | array items =>
          have same : (items.map arranged).map arranged = items.map arranged :=
            map_eq_self (List.forall_mem_map.mpr inductionHypothesis)
          simp only [arranged, arrangedItems_eq, same]
      | annotated index elements =>
          have same :
              (sortOn (·.1) (arrangedElements elements)).map
                  (fun element => (element.1, element.2.arranged)) =
                sortOn (·.1) (arrangedElements elements) := by
            refine map_eq_self fun element member => ?_
            rw [mem_sortOn, arrangedElements_eq] at member
            obtain ⟨old, isOld, rfl⟩ := List.mem_map.mp member
            exact Prod.ext rfl (inductionHypothesis old.2 (List.mem_map_of_mem isOld))
          rw [arranged, arranged, arrangedElements_eq (sortOn _ _), same, sortOn_sortOn]
      | _ =>
          rfl

theorem Value.arrangedItems_arrangedItems (items : List Value) :
    arrangedItems (arrangedItems items) = arrangedItems items := by
  rw [arrangedItems_eq items, arrangedItems_eq]
  exact map_eq_self (List.forall_mem_map.mpr fun item _ => item.arranged_arranged)

theorem AnnotationItem.arranged_arranged (item : AnnotationItem) :
    item.arranged.arranged = item.arranged := by
  have same :=
    Value.arranged_arranged (.annotated item.type item.elements)
  simp only [Value.arranged, Value.annotated.injEq, true_and] at same
  simp only [arranged, same]

theorem AnnotationSet.arranged_arranged (set : AnnotationSet) :
    AnnotationSet.arranged (AnnotationSet.arranged set) = AnnotationSet.arranged set := by
  have same :
      (AnnotationSet.arranged set).map AnnotationItem.arranged = AnnotationSet.arranged set := by
    refine map_eq_self fun item member => ?_
    obtain ⟨old, -, rfl⟩ := List.mem_map.mp (Value.mem_sortOn.mp member)
    exact old.arranged_arranged
  rw [AnnotationSet.arranged, same]
  exact sortOn_sortOn _ _

namespace AnnotationDirectory

theorem membersArranged_mapSets
    (change : AnnotationSet → AnnotationSet)
    (directory : AnnotationDirectory) :
    (directory.mapSets change).membersArranged = directory.membersArranged.mapSets change := by
  simp only [membersArranged, mapSets]
  rw [sortOn_map_snd, sortOn_map_snd, sortOn_map_snd]

theorem membersArranged_membersArranged (directory : AnnotationDirectory) :
    directory.membersArranged.membersArranged = directory.membersArranged := by
  simp only [membersArranged, sortOn_sortOn]

theorem mapSets_mapSets
    (first second : AnnotationSet → AnnotationSet)
    (directory : AnnotationDirectory) :
    (directory.mapSets first).mapSets second = directory.mapSets (second ∘ first) := by
  simp [mapSets, Function.comp_def]

theorem arranged_arranged (directory : AnnotationDirectory) :
    directory.arranged.arranged = directory.arranged := by
  have same : AnnotationSet.arranged ∘ AnnotationSet.arranged = AnnotationSet.arranged :=
    funext AnnotationSet.arranged_arranged
  rw [arranged, arranged, membersArranged_mapSets, membersArranged_membersArranged,
    mapSets_mapSets, same]

end AnnotationDirectory

theorem ClassData.arranged_arranged (data : ClassData) : data.arranged.arranged = data.arranged := by
  simp only [arranged, sortOn_sortOn]

theorem ClassDef.arranged_arranged (classDef : ClassDef) :
    classDef.arranged.arranged = classDef.arranged := by
  have directories : AnnotationDirectory.arranged ∘ AnnotationDirectory.arranged = _ :=
    funext AnnotationDirectory.arranged_arranged
  have data : ClassData.arranged ∘ ClassData.arranged = _ := funext ClassData.arranged_arranged
  have values : Value.arrangedItems ∘ Value.arrangedItems = _ :=
    funext Value.arrangedItems_arrangedItems
  simp only [arranged, Option.map_map, directories, data, values]

/-- Lists are put in order once and for all. -/
theorem Container.arranged_arranged (container : Container) :
    container.arranged.arranged = container.arranged := by
  have classes : ClassDef.arranged ∘ ClassDef.arranged = _ := funext ClassDef.arranged_arranged
  have values : Value.arrangedItems ∘ Value.arrangedItems = _ :=
    funext Value.arrangedItems_arrangedItems
  simp only [arranged, List.map_map, classes, values]

end DexPatch
