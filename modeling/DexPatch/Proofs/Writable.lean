import DexPatch.Proofs.Encoding

namespace DexPatch

/-!
# Which containers can be encoded

A container can be encoded exactly if every reference that is written leads to
an entry, those written in 16 bits get numbers that fit, all code is made of
complete instructions, and a 16-bit offset reaches the handler of every try
range.  What annotations are written by needs no check: each annotation and
each set has its offset by the time it is asked for.
-/

/-! ## The references that are written -/

/-- The references of a body.  Handlers without a try range are not written. -/
def Body.writtenRefs (body : Body) : List Reference :=
  (body.debug.map DebugInfo.refs).getD [] ++ (split body.code).instructions.flatMap poolOperands ++
    if body.tries.isEmpty then [] else body.handlers.flatMap CatchHandler.refs

/-- All code of the body is made of complete instructions, and each of its try ranges names a
handler that a 16-bit offset reaches in the list as it is written. -/
structure Body.Complete (renumber : RefMap) (body : Body) : Prop where
  code : ∃ instructions, Cut body.code instructions []
  handlers :
    ∀ range ∈ body.tries,
      range.Placed (.ofHandlers (body.handlers.map (CatchHandler.mapRefs renumber)))

/-- The references of a class in its table, and those to its interfaces. -/
def ClassDef.headRefs (classDef : ClassDef) : List Reference :=
  .long .type classDef.type :: Reference.longs .type [classDef.superclass] ++
    classDef.interfaces.map (.brief .type) ++ Reference.longs .string [classDef.sourceFile]

/-- The references of what a class consists of, the bodies of its methods apart. -/
def ClassDef.partRefs (classDef : ClassDef) : List Reference :=
  (classDef.annotations.map AnnotationDirectory.memberRefs).getD [] ++
    (classDef.annotations.map AnnotationDirectory.annotationRefs).getD [] ++
    (classDef.data.map ClassData.memberRefs).getD [] ++
    (classDef.staticValues.map Value.refsItems).getD []

/-- The references of the bodies of a class. -/
def ClassDef.bodyRefs (classDef : ClassDef) : List Reference :=
  classDef.allMethods.flatMap fun method => (method.body.map Body.writtenRefs).getD []

namespace Container

/-- The references of the entries of the pools.  Types in parameter lists, and the classes, types
and prototypes of fields and methods, are written in 16 bits. -/
def entryRefs (container : Container) : List Reference :=
  container.poolRefs ++
    (container.protos.toList.flatMap fun proto => proto.parameters.map (.brief .type)) ++
    (container.fields.toList.flatMap fun id =>
      [.brief .type id.declaringType, .brief .type id.type]) ++
    container.methods.toList.flatMap fun id =>
      [.brief .type id.declaringType, .brief .proto id.proto]

/-- All references of a container that are written, each with its width. -/
def writtenRefs (container : Container) : List Reference :=
  container.entryRefs ++ container.classes.flatMap ClassDef.headRefs ++
    container.classes.flatMap ClassDef.partRefs ++ container.classes.flatMap ClassDef.bodyRefs ++
    container.callSites.flatMap Value.refsItems ++
    container.methodHandles.map fun handle => .brief handle.targetPool handle.target

/-- The reference leads to an entry, and the number that this gets fits the width in which it is
written. -/
structure Reaches (container : Container) (renumber : RefMap) (ref : Reference) : Prop where
  inside : ref.index.toNat < container.poolSize ref.pool
  fits : ref.short → (renumber ref.pool ref.index).toNat < 65536

/-- What can be written with its entries under new numbers. -/
structure Writable (container : Container) (renumber : RefMap) : Prop where
  references : ∀ ref ∈ container.writtenRefs, container.Reaches renumber ref
  bodies :
    ∀ classDef ∈ container.classes, ∀ method ∈ classDef.allMethods, ∀ body ∈ method.body,
      body.Complete renumber

end Container

/-! ## References of what was renumbered -/

section Renumbered

variable {renumber : RefMap}

/-- A renumbered value refers to what the value refers to, renumbered. -/
theorem Value.mem_refs_mapRefs
    {value : Value}
    {ref : Reference} :
    ref ∈ (value.mapRefs renumber).refs ↔ ref ∈ value.refs.map (Reference.renumber renumber) := by
  induction value using nestedInduction generalizing ref with
  | step value inductionHypothesis =>
      cases value with
      | array items =>
          simp only [mapRefs, mapRefsItems_eq, mem_refs_array, List.mem_map]
          constructor
          · rintro ⟨_, ⟨item, member, rfl⟩, refers⟩
            obtain ⟨old, isOld, same⟩ :=
              List.mem_map.mp ((inductionHypothesis item member).mp refers)
            exact ⟨old, ⟨item, member, isOld⟩, same⟩
          · rintro ⟨old, ⟨item, member, isOld⟩, rfl⟩
            exact ⟨_, ⟨item, member, rfl⟩,
              (inductionHypothesis item member).mpr (List.mem_map_of_mem isOld)⟩
      | annotated index elements =>
          have element_iff {element : UInt32 × Value} (member : element ∈ elements) :
              ref ∈ (element.2.mapRefs renumber).refs ↔
                ref ∈ element.2.refs.map (Reference.renumber renumber) :=
            inductionHypothesis element.2 (List.mem_map_of_mem member)
          simp only [mapRefs, mapRefsElements_eq, mem_refs_annotated, List.mem_map]
          constructor
          · rintro (rfl | ⟨_, ⟨element, member, rfl⟩, rfl | refers⟩)
            · exact ⟨.long .type index, .inl rfl, rfl⟩
            · exact ⟨.long .string element.1, .inr ⟨element, member, .inl rfl⟩, rfl⟩
            · obtain ⟨old, isOld, same⟩ := List.mem_map.mp ((element_iff member).mp refers)
              exact ⟨old, .inr ⟨element, member, .inr isOld⟩, same⟩
          · rintro ⟨old, rfl | ⟨element, member, rfl | isOld⟩, rfl⟩
            · exact .inl rfl
            · exact .inr ⟨_, ⟨element, member, rfl⟩, .inl rfl⟩
            · exact .inr ⟨_, ⟨element, member, rfl⟩,
                .inr ((element_iff member).mpr (List.mem_map_of_mem isOld))⟩
      | _ =>
          rfl

theorem Value.mem_refsItems_mapRefsItems
    {items : List Value}
    {ref : Reference} :
    ref ∈ refsItems (mapRefsItems renumber items) ↔
      ref ∈ (refsItems items).map (Reference.renumber renumber) := by
  simp only [refsItems_eq, mapRefsItems_eq, List.flatMap_map, List.map_flatMap, List.mem_flatMap,
    mem_refs_mapRefs]

theorem AnnotationItem.mem_refs_mapRefs
    {item : AnnotationItem}
    {ref : Reference} :
    ref ∈ (item.mapRefs renumber).refs ↔ ref ∈ item.refs.map (Reference.renumber renumber) := by
  have same :
      Value.annotated (item.mapRefs renumber).type (item.mapRefs renumber).elements =
        (Value.annotated item.type item.elements).mapRefs renumber := by
    rfl
  rw [refs, refs, List.map_cons, List.mem_cons, List.mem_cons, same, Value.mem_refs_mapRefs]
  rfl

namespace AnnotationDirectory

variable {directory : AnnotationDirectory}

theorem sets_mapRefs :
    (directory.mapRefs renumber).sets = directory.sets.map (AnnotationSet.mapRefs renumber) := by
  cases isSet : directory.ofClass <;>
    simp [mapRefs, sets, List.map_flatMap, List.flatMap_map, List.filterMap_map,
      List.map_filterMap, Function.comp_def, isSet]

theorem mem_annotationRefs_mapRefs {ref : Reference} :
    ref ∈ (directory.mapRefs renumber).annotationRefs ↔
      ref ∈ directory.annotationRefs.map (Reference.renumber renumber) := by
  simp only [mem_annotationRefs, sets_mapRefs, List.mem_map]
  constructor
  · rintro ⟨_, ⟨set, isSet, rfl⟩, _, isItem, refers⟩
    obtain ⟨item, isOld, rfl⟩ := List.mem_map.mp isItem
    obtain ⟨old, refersToo, same⟩ := List.mem_map.mp (AnnotationItem.mem_refs_mapRefs.mp refers)
    exact ⟨old, ⟨set, isSet, item, isOld, refersToo⟩, same⟩
  · rintro ⟨old, ⟨set, isSet, item, isItem, refers⟩, rfl⟩
    exact ⟨_, ⟨set, isSet, rfl⟩, item.mapRefs renumber, List.mem_map_of_mem isItem,
      AnnotationItem.mem_refs_mapRefs.mpr (List.mem_map_of_mem refers)⟩

theorem memberRefs_mapRefs :
    (directory.mapRefs renumber).memberRefs =
      directory.memberRefs.map (Reference.renumber renumber) := by
  simp [memberRefs, mapRefs, Function.comp_def, Reference.renumber, Reference.long]

end AnnotationDirectory

theorem ClassData.memberRefs_mapRefs {data : ClassData} :
    (data.mapRefs renumber).memberRefs = data.memberRefs.map (Reference.renumber renumber) := by
  simp [memberRefs, mapRefs, Function.comp_def, Reference.renumber, Reference.long,
    MemberField.mapRefs, MemberMethod.mapRefs]

theorem Reference.longs_map (pool : Pool) (indices : List (Option UInt32)) :
    longs pool (indices.map (Option.map (renumber pool))) =
      (longs pool indices).map (Reference.renumber renumber) := by
  simp [longs, List.filterMap_map, List.map_filterMap, Function.comp_def, Reference.renumber,
    Reference.long]

theorem DebugOp.refs_mapRefs (op : DebugOp) :
    (op.mapRefs renumber).refs = op.refs.map (Reference.renumber renumber) := by
  cases op with
  | startLocal register name type =>
      simp only [mapRefs, refs, List.map_append, ← Reference.longs_map, List.map_cons, List.map_nil]
  | startLocalExtended register name type signature =>
      simp only [mapRefs, refs, List.map_append, ← Reference.longs_map, List.map_cons, List.map_nil]
  | setFile name =>
      simp only [mapRefs, refs, ← Reference.longs_map, List.map_cons, List.map_nil]
  | _ =>
      rfl

theorem DebugInfo.refs_mapRefs (debug : DebugInfo) :
    (debug.mapRefs renumber).refs = debug.refs.map (Reference.renumber renumber) := by
  simp only [refs, mapRefs, Reference.longs_map, List.map_append, List.flatMap_map,
    List.map_flatMap, DebugOp.refs_mapRefs]

theorem CatchHandler.refs_mapRefs (handler : CatchHandler) :
    (handler.mapRefs renumber).refs = handler.refs.map (Reference.renumber renumber) := by
  simp [refs, mapRefs, Function.comp_def, Reference.renumber, Reference.long]

end Renumbered

/-! ## The checks on the numbers that entries have -/

/-- Entries that are changed and moved are the entries, changed. -/
theorem Numbering.Covers.forall_mem_arrange_map
    {α β : Type}
    {entries : Array α}
    {numbering : Numbering}
    (covers : numbering.Covers entries.size)
    {change : α → β}
    {holds : β → Prop} :
    (∀ x ∈ numbering.arrange (entries.map change), holds x) ↔ ∀ x ∈ entries, holds (change x) := by
  have perm := covers.arrange_map_perm change
  simp only [← Array.mem_toList_iff, perm.mem_iff, List.forall_mem_map]

namespace Container

variable {container : Container} {renumbering : Renumbering} (covers : renumbering.Covers container)

include covers

/-- A reference leads to an entry under its new number exactly if it reaches it. -/
theorem leads_renumber_iff (ref : Reference) :
    (container.renumbered renumbering).Leads (ref.renumber renumbering.map) ↔
      container.Reaches renumbering.map ref := by
  have inside :
      (renumbering.map ref.pool ref.index).toNat <
          (container.renumbered renumbering).poolSize ref.pool ↔
        ref.index.toNat < container.poolSize ref.pool := by
    rw [poolSize_renumbered covers, map_lt_poolSize_iff covers]
  exact ⟨fun leads => ⟨inside.mp leads.1, leads.2⟩, fun reaches =>
    ⟨inside.mpr reaches.inside, reaches.fits⟩⟩

/-- References lead to entries under their new numbers exactly if they reach them. -/
theorem forall_mem_refs_iff
    {refs newRefs : List Reference}
    (same : ∀ ref, ref ∈ newRefs ↔ ref ∈ refs.map (Reference.renumber renumbering.map)) :
    (∀ ref ∈ newRefs, (container.renumbered renumbering).Leads ref) ↔
      ∀ ref ∈ refs, container.Reaches renumbering.map ref := by
  simp only [same, List.forall_mem_map, leads_renumber_iff covers]

omit covers in
/-- The references inside the pools are checked under their old numbers. -/
theorem leads_poolRefs_iff (renumber : RefMap) :
    (∀ ref ∈ container.poolRefs, container.Leads ref) ↔
      ∀ ref ∈ container.poolRefs, container.Reaches renumber ref := by
  refine forall₂_congr fun ref refers => ?_
  have long := long_of_mem_poolRefs refers
  exact ⟨fun leads => ⟨leads.1, by simp [long]⟩, fun reaches => ⟨reaches.inside, by simp [long]⟩⟩

/-- A body fits exactly if its references reach their entries and it is complete. -/
theorem bodyFits_iff {body : Body} :
    ((∀ debug ∈ body.debug, ∀ ref ∈ (debug.mapRefs renumbering.map).refs,
            (container.renumbered renumbering).Leads ref) ∧
        (container.renumbered renumbering).BodyFits renumbering.map body) ↔
      (∀ ref ∈ body.writtenRefs, container.Reaches renumbering.map ref) ∧
        body.Complete renumbering.map := by
  have debug :
      (∀ debug ∈ body.debug, ∀ ref ∈ (debug.mapRefs renumbering.map).refs,
          (container.renumbered renumbering).Leads ref) ↔
        ∀ ref ∈ (body.debug.map DebugInfo.refs).getD [],
          container.Reaches renumbering.map ref := by
    rw [forall_mem_getD]
    refine forall₂_congr fun debug _ => forall_mem_refs_iff covers fun ref => ?_
    rw [debug.refs_mapRefs]
  have operands :
      (∀ instruction ∈ (split body.code).instructions, ∀ ref ∈ poolOperands instruction,
          (container.renumbered renumbering).Leads (ref.renumber renumbering.map)) ↔
        ∀ ref ∈ (split body.code).instructions.flatMap poolOperands,
          container.Reaches renumbering.map ref := by
    simp only [List.forall_mem_flatMap, leads_renumber_iff covers]
  have handlers :
      (body.tries ≠ [] →
          ∀ handler ∈ body.handlers.map (CatchHandler.mapRefs renumbering.map),
            ∀ ref ∈ handler.refs, (container.renumbered renumbering).Leads ref) ↔
        ∀ ref ∈ if body.tries.isEmpty then [] else body.handlers.flatMap CatchHandler.refs,
          container.Reaches renumbering.map ref := by
    cases body.tries with
    | nil =>
        simp
    | cons range tries =>
        simp only [ne_eq, reduceCtorEq, not_false_iff, forall_const, List.forall_mem_map,
          CatchHandler.refs_mapRefs, leads_renumber_iff covers, List.isEmpty_cons,
          Bool.false_eq_true, if_false, List.forall_mem_flatMap]
  have complete :
      (split body.code).rest = [] ↔ ∃ instructions, Cut body.code instructions [] := by
    constructor
    · intro complete
      exact ⟨_, complete ▸ Cut.of_split body.code⟩
    · rintro ⟨instructions, cut⟩
      rw [cut.split_eq]
  rw [Body.writtenRefs, List.forall_mem_append, List.forall_mem_append, ← debug, ← operands,
    ← handlers]
  constructor
  · rintro ⟨debugLeads, fits⟩
    exact ⟨⟨⟨debugLeads, fits.operands⟩, fits.handlers⟩, complete.mp fits.complete, fits.placed⟩
  · rintro ⟨⟨⟨debugLeads, operandsLead⟩, handlersLead⟩, code, placed⟩
    exact ⟨debugLeads, operandsLead, complete.mpr code, handlersLead, placed⟩

/-- What the checks ask of the entries of the pools is that all their references reach entries. -/
theorem entryRefs_iff :
    (∀ ref ∈ container.entryRefs, container.Reaches renumbering.map ref) ↔
      (∀ ref ∈ container.poolRefs, container.Leads ref) ∧
        (∀ proto ∈ (container.renumbered renumbering).protos, ∀ type ∈ proto.parameters,
            (container.renumbered renumbering).Leads (.brief .type type)) ∧
          (∀ id ∈ (container.renumbered renumbering).fields,
            (container.renumbered renumbering).Leads (.brief .type id.declaringType) ∧
              (container.renumbered renumbering).Leads (.brief .type id.type)) ∧
            ∀ id ∈ (container.renumbered renumbering).methods,
              (container.renumbered renumbering).Leads (.brief .type id.declaringType) ∧
                (container.renumbered renumbering).Leads (.brief .proto id.proto) := by
  have brief (pool : Pool) (index : UInt32) :
      (container.renumbered renumbering).Leads (.brief pool (renumbering.map pool index)) ↔
        container.Reaches renumbering.map (.brief pool index) :=
    leads_renumber_iff covers (.brief pool index)
  have parameters :
      (∀ proto ∈ (container.renumbered renumbering).protos, ∀ type ∈ proto.parameters,
          (container.renumbered renumbering).Leads (.brief .type type)) ↔
        ∀ proto ∈ container.protos, ∀ type ∈ proto.parameters,
          container.Reaches renumbering.map (.brief .type type) := by
    refine covers.protos.forall_mem_arrange_map.trans ?_
    simp only [Proto.mapRefs, List.forall_mem_map, brief]
  have fields :
      (∀ id ∈ (container.renumbered renumbering).fields,
          (container.renumbered renumbering).Leads (.brief .type id.declaringType) ∧
            (container.renumbered renumbering).Leads (.brief .type id.type)) ↔
        ∀ id ∈ container.fields,
          container.Reaches renumbering.map (.brief .type id.declaringType) ∧
            container.Reaches renumbering.map (.brief .type id.type) := by
    refine covers.fields.forall_mem_arrange_map.trans ?_
    simp only [FieldId.mapRefs, brief]
  have methods :
      (∀ id ∈ (container.renumbered renumbering).methods,
          (container.renumbered renumbering).Leads (.brief .type id.declaringType) ∧
            (container.renumbered renumbering).Leads (.brief .proto id.proto)) ↔
        ∀ id ∈ container.methods,
          container.Reaches renumbering.map (.brief .type id.declaringType) ∧
            container.Reaches renumbering.map (.brief .proto id.proto) := by
    refine covers.methods.forall_mem_arrange_map.trans ?_
    simp only [MethodId.mapRefs, brief]
  rw [parameters, fields, methods, leads_poolRefs_iff renumbering.map]
  simp only [entryRefs, List.forall_mem_append, List.forall_mem_flatMap, List.forall_mem_map,
    List.forall_mem_cons, List.not_mem_nil, false_implies, implies_true, and_true,
    Array.mem_toList_iff, and_assoc]

/-- The parts that classes may have lead to entries exactly if they reach them. -/
theorem forall_part_iff
    {α : Type}
    (part : ClassDef → Option α)
    (refs : α → List Reference)
    {change : α → α}
    (follows :
      ∀ classDef : ClassDef, part (classDef.mapRefs renumbering.map) = (part classDef).map change)
    (same :
      ∀ x ref, ref ∈ refs (change x) ↔ ref ∈ (refs x).map (Reference.renumber renumbering.map)) :
    (∀ classDef ∈ (container.renumbered renumbering).classes, ∀ x ∈ part classDef,
        ∀ ref ∈ refs x, (container.renumbered renumbering).Leads ref) ↔
      ∀ classDef ∈ container.classes, ∀ ref ∈ ((part classDef).map refs).getD [],
        container.Reaches renumbering.map ref := by
  refine List.forall_mem_map.trans (forall₂_congr fun classDef _ => ?_)
  rw [follows, forall_mem_getD]
  simp only [Option.mem_def, Option.map_eq_some_iff, forall_exists_index, and_imp,
    forall_apply_eq_imp_iff₂]
  exact forall₂_congr fun x _ => forall_mem_refs_iff covers (same x)

/-- What the checks ask of the entries of classes in their table is that all references reach
entries. -/
theorem headRefs_iff :
    (∀ classDef ∈ container.classes, ∀ ref ∈ classDef.headRefs,
        container.Reaches renumbering.map ref) ↔
      ∀ classDef ∈ (container.renumbered renumbering).classes,
        (container.renumbered renumbering).Leads (.long .type classDef.type) ∧
          (∀ type ∈ classDef.superclass,
            (container.renumbered renumbering).Leads (.long .type type)) ∧
          (∀ type ∈ classDef.interfaces,
            (container.renumbered renumbering).Leads (.brief .type type)) ∧
          ∀ string ∈ classDef.sourceFile,
            (container.renumbered renumbering).Leads (.long .string string) := by
  have one {pool : Pool} {option : Option UInt32} {holds : Reference → Prop} :
      (∀ ref ∈ Reference.longs pool [option], holds ref) ↔
        ∀ index ∈ option, holds (.long pool index) := by
    cases option <;> simp [Reference.longs]
  have long (pool : Pool) (index : UInt32) :
      (container.renumbered renumbering).Leads (.long pool (renumbering.map pool index)) ↔
        container.Reaches renumbering.map (.long pool index) :=
    leads_renumber_iff covers (.long pool index)
  have brief (pool : Pool) (index : UInt32) :
      (container.renumbered renumbering).Leads (.brief pool (renumbering.map pool index)) ↔
        container.Reaches renumbering.map (.brief pool index) :=
    leads_renumber_iff covers (.brief pool index)
  refine Iff.symm (List.forall_mem_map.trans (forall₂_congr fun classDef _ => ?_))
  simp only [ClassDef.headRefs, ClassDef.mapRefs, List.forall_mem_append, List.forall_mem_cons,
    List.forall_mem_map, one, Option.mem_def, Option.map_eq_some_iff, forall_exists_index, and_imp,
    forall_apply_eq_imp_iff₂, long, brief, and_assoc]

/-- What the checks ask of call sites and handles is that their references reach entries. -/
theorem listRefs_iff :
    ((∀ ref ∈ container.callSites.flatMap Value.refsItems,
          container.Reaches renumbering.map ref) ↔
        ∀ callSite ∈ (container.renumbered renumbering).callSites,
          ∀ ref ∈ Value.refsItems callSite, (container.renumbered renumbering).Leads ref) ∧
      ((∀ handle ∈ container.methodHandles,
          container.Reaches renumbering.map (.brief handle.targetPool handle.target)) ↔
        ∀ handle ∈ (container.renumbered renumbering).methodHandles,
          (container.renumbered renumbering).Leads (.brief handle.targetPool handle.target)) := by
  constructor
  · refine List.forall_mem_flatMap.trans (Iff.symm (List.forall_mem_map.trans ?_))
    exact forall₂_congr fun callSite _ =>
      forall_mem_refs_iff covers fun _ => Value.mem_refsItems_mapRefsItems
  · refine Iff.symm (List.forall_mem_map.trans (forall₂_congr fun handle _ => ?_))
    exact leads_renumber_iff covers (.brief handle.targetPool handle.target)

/-- The checks ask exactly that the container can be written under its new numbers. -/
theorem checked_iff_writable :
    ((∀ ref ∈ container.poolRefs, container.Leads ref) ∧
        container.Checked (container.renumbered renumbering) renumbering.map) ↔
      container.Writable renumbering.map := by
  have entries := entryRefs_iff covers
  have heads := headRefs_iff covers
  have annotatedMembers :=
    forall_part_iff covers (·.annotations) AnnotationDirectory.memberRefs (fun _ => rfl)
      fun directory ref => by rw [directory.memberRefs_mapRefs]
  have annotations :=
    forall_part_iff covers (·.annotations) AnnotationDirectory.annotationRefs (fun _ => rfl)
      fun _ _ => AnnotationDirectory.mem_annotationRefs_mapRefs
  have members :=
    forall_part_iff covers (·.data) ClassData.memberRefs (fun _ => rfl)
      fun data ref => by rw [data.memberRefs_mapRefs]
  have staticValues :=
    forall_part_iff covers (·.staticValues) Value.refsItems (fun _ => rfl)
      fun _ _ => Value.mem_refsItems_mapRefsItems
  obtain ⟨callSites, handles⟩ := listRefs_iff covers
  constructor
  · rintro ⟨pools, checked⟩
    have bodies {classDef} (isClass : classDef ∈ container.classes) {method}
        (isMethod : method ∈ classDef.allMethods) {body} (isBody : body ∈ method.body) :=
      (bodyFits_iff covers).mp ⟨checked.debug classDef isClass method isMethod body isBody,
        checked.bodies classDef isClass method isMethod body isBody⟩
    refine ⟨?_, fun classDef isClass method isMethod body isBody =>
      (bodies isClass isMethod isBody).2⟩
    simp only [writtenRefs, List.forall_mem_append, and_assoc]
    refine ⟨entries.mpr ⟨pools, checked.parameters, checked.fields, checked.methods⟩,
      List.forall_mem_flatMap.mpr (heads.mpr fun classDef isClass =>
        ⟨checked.types classDef isClass, checked.superclasses classDef isClass,
          checked.interfaces classDef isClass, checked.sourceFiles classDef isClass⟩),
      List.forall_mem_flatMap.mpr fun classDef isClass => ?_,
      List.forall_mem_flatMap.mpr fun classDef isClass => ?_,
      callSites.mpr checked.callSites, List.forall_mem_map.mpr (handles.mpr checked.handles)⟩
    · simp only [ClassDef.partRefs, List.forall_mem_append, and_assoc]
      exact ⟨annotatedMembers.mp checked.annotatedMembers classDef isClass,
        annotations.mp checked.annotations classDef isClass,
        members.mp checked.members classDef isClass,
        staticValues.mp checked.staticValues classDef isClass⟩
    · refine List.forall_mem_flatMap.mpr fun method isMethod => forall_mem_getD.mpr ?_
      exact fun body isBody => (bodies isClass isMethod isBody).1
  · rintro ⟨references, complete⟩
    simp only [writtenRefs, List.forall_mem_append, and_assoc] at references
    obtain ⟨entryRefs, headRefs, partRefs, bodyRefs, callSiteRefs, handleRefs⟩ := references
    simp only [List.forall_mem_flatMap, ClassDef.partRefs, List.forall_mem_append, and_assoc,
      forall₂_and] at headRefs partRefs
    obtain ⟨pools, parameters, fields, methods⟩ := entries.mp entryRefs
    have headed := heads.mp headRefs
    obtain ⟨annotatedMemberRefs, annotationRefs, memberRefs, valueRefs⟩ := partRefs
    have bodies {classDef} (isClass : classDef ∈ container.classes) {method}
        (isMethod : method ∈ classDef.allMethods) {body} (isBody : body ∈ method.body) :=
      (bodyFits_iff covers).mpr
        ⟨forall_mem_getD.mp
            (List.forall_mem_flatMap.mp (List.forall_mem_flatMap.mp bodyRefs classDef isClass)
              method isMethod) body isBody,
          complete classDef isClass method isMethod body isBody⟩
    exact
      ⟨pools,
        { parameters, fields, methods
          interfaces := fun classDef isClass => (headed classDef isClass).2.2.1
          annotatedMembers := annotatedMembers.mpr annotatedMemberRefs
          annotations := annotations.mpr annotationRefs
          members := members.mpr memberRefs
          debug := fun classDef isClass method isMethod body isBody =>
            (bodies isClass isMethod isBody).1
          bodies := fun classDef isClass method isMethod body isBody =>
            (bodies isClass isMethod isBody).2
          callSites := callSites.mp callSiteRefs
          staticValues := staticValues.mpr valueRefs
          types := fun classDef isClass => (headed classDef isClass).1
          superclasses := fun classDef isClass => (headed classDef isClass).2.1
          sourceFiles := fun classDef isClass => (headed classDef isClass).2.2.2
          handles := handles.mp (List.forall_mem_map.mp handleRefs) }⟩

omit covers

/-! ## Annotations have offsets -/

/-- Each annotation has an offset when sets are written, and each set when it is pointed to. -/
theorem exists_annotationOffsets
    {set : AnnotationSet}
    (member : set ∈ container.annotationSets) :
    (∀ item ∈ (set : List AnnotationItem),
        ∃ offset, container.data.annotations.items[item.bytes]? = some offset) ∧
      ∃ offset,
        container.data.annotations.sets[
            AnnotationOffsets.entries container.data.annotations.items set]? =
          some offset := by
  constructor
  · intro item isItem
    have listed : item.bytes ∈ container.annotationItems :=
      mem_distinct (List.mem_flatMap.mpr ⟨set, member, List.mem_map_of_mem isItem⟩)
    have sameLength : container.data.items.offsets.length = container.annotationItems.length := by
      simpa using container.laidOut.items.1
    obtain ⟨offset, found, -⟩ := getElem?_offsetTable listed sameLength
    exact ⟨offset, found⟩
  · have listed :
        AnnotationOffsets.entries container.data.annotations.items set ∈
          container.setEntries container.data.annotations.items :=
      mem_distinct (List.mem_map_of_mem member)
    have sameLength :
        container.data.sets.offsets.length =
          (container.setEntries container.data.annotations.items).length := by
      simpa using container.laidOut.sets.1
    obtain ⟨offset, found, -⟩ := getElem?_offsetTable listed sameLength
    exact ⟨offset, found⟩

/-- A container can be encoded exactly if it can be written under its new numbers.  The offsets of
annotations and sets are there whatever the container is, so that none of these is ever missing. -/
theorem exists_encode_iff :
    ((∃ image, container.encode = .ok image) ↔
        container.Writable (Renumbering.ofContainer container).map) ∧
      ∀ set ∈ container.canonical.annotationSets,
        (∀ item ∈ (set : List AnnotationItem),
            ∃ offset, container.canonical.data.annotations.items[item.bytes]? = some offset) ∧
          ∃ offset,
            container.canonical.data.annotations.sets[
                AnnotationOffsets.entries container.canonical.data.annotations.items set]? =
              some offset := by
  refine ⟨?_, fun set member => exists_annotationOffsets member⟩
  rw [← checked_iff_writable (Renumbering.covers_ofContainer container)]
  constructor
  · rintro ⟨image, encoded⟩
    obtain ⟨pools, checked, -⟩ := encode_eq_ok_iff.mp encoded
    exact ⟨pools, checked⟩
  · rintro ⟨pools, checked⟩
    exact ⟨_, encode_eq_ok_iff.mpr ⟨pools, checked, rfl⟩⟩

end Container

end DexPatch
