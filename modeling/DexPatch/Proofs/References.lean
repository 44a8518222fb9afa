import DexPatch.Proofs.Nested
import DexPatch.Proofs.Numbering
import DexPatch.Proofs.Operands

namespace DexPatch

/-!
# Renumbering references

Renumbering by numbers that stay the same changes nothing.  What a value or an
annotation refers to does not depend on the order of its elements.
-/

/-- Every reference keeps its number. -/
def RefMap.unchanged : RefMap := fun _ index => index

/-! ## Numbers that stay the same -/

section Unchanged

open RefMap (unchanged)

@[simp] theorem map_unchanged (pool : Pool) (list : List UInt32) :
    list.map (unchanged pool) = list :=
  List.map_id list

@[simp] theorem option_map_unchanged (pool : Pool) (index : Option UInt32) :
    index.map (unchanged pool) = index :=
  Option.map_id_apply

/-- A map that changes no element changes no list. -/
theorem map_eq_self
    {α : Type}
    {change : α → α}
    {list : List α}
    (same : ∀ x ∈ list, change x = x) :
    list.map change = list := by
  rw [List.map_congr_left same, List.map_id']

theorem Value.mapRefs_unchanged (value : Value) : value.mapRefs unchanged = value := by
  induction value using Value.nestedInduction with
  | step value inductionHypothesis =>
      cases value with
      | array items =>
          have same : items.map (Value.mapRefs unchanged) = items := map_eq_self inductionHypothesis
          rw [Value.mapRefs, Value.mapRefsItems_eq, same]
      | annotated index elements =>
          rw [Value.mapRefs, Value.mapRefsElements_eq, map_eq_self]
          · rfl
          · intro element member
            rw [inductionHypothesis element.2 (List.mem_map_of_mem member)]
            rfl
      | _ =>
          rfl

theorem Value.mapRefsItems_unchanged (items : List Value) :
    Value.mapRefsItems unchanged items = items := by
  rw [Value.mapRefsItems_eq, map_eq_self fun item _ => item.mapRefs_unchanged]

theorem AnnotationItem.mapRefs_unchanged (item : AnnotationItem) :
    item.mapRefs unchanged = item := by
  rw [mapRefs, Value.mapRefsElements_eq, map_eq_self]
  · rfl
  · intro element _
    rw [Value.mapRefs_unchanged]
    rfl

theorem AnnotationSet.mapRefs_unchanged (set : AnnotationSet) :
    AnnotationSet.mapRefs unchanged set = set :=
  map_eq_self fun item _ => item.mapRefs_unchanged

theorem AnnotationDirectory.mapRefs_unchanged (directory : AnnotationDirectory) :
    directory.mapRefs unchanged = directory := by
  have same : AnnotationSet.mapRefs unchanged = id := funext AnnotationSet.mapRefs_unchanged
  simp [mapRefs, same, unchanged]

theorem DebugOp.mapRefs_unchanged (op : DebugOp) : op.mapRefs unchanged = op := by
  cases op <;> simp [mapRefs]

theorem DebugInfo.mapRefs_unchanged (debug : DebugInfo) : debug.mapRefs unchanged = debug := by
  have same : DebugOp.mapRefs unchanged = id := funext DebugOp.mapRefs_unchanged
  simp [mapRefs, same]

theorem CatchHandler.mapRefs_unchanged (handler : CatchHandler) :
    handler.mapRefs unchanged = handler := by
  simp [mapRefs, unchanged]

theorem Body.mapRefs_unchanged (body : Body) : body.mapRefs unchanged = body := by
  have sameDebug : DebugInfo.mapRefs unchanged = id := funext DebugInfo.mapRefs_unchanged
  have sameHandlers : CatchHandler.mapRefs unchanged = id := funext CatchHandler.mapRefs_unchanged
  have sameCode : mapCodeOperands unchanged body.code = body.code := mapCodeOperands_id body.code
  simp [mapRefs, sameDebug, sameHandlers, sameCode]

theorem MemberField.mapRefs_unchanged (member : MemberField) : member.mapRefs unchanged = member :=
  rfl

theorem MemberMethod.mapRefs_unchanged (member : MemberMethod) :
    member.mapRefs unchanged = member := by
  have sameBody : Body.mapRefs unchanged = id := funext Body.mapRefs_unchanged
  simp [mapRefs, sameBody, unchanged]

theorem ClassData.mapRefs_unchanged (data : ClassData) : data.mapRefs unchanged = data := by
  have sameFields : MemberField.mapRefs unchanged = id := funext MemberField.mapRefs_unchanged
  have sameMethods : MemberMethod.mapRefs unchanged = id := funext MemberMethod.mapRefs_unchanged
  simp [mapRefs, sameFields, sameMethods]

theorem ClassDef.mapRefs_unchanged (classDef : ClassDef) :
    classDef.mapRefs unchanged = classDef := by
  have sameAnnotations : AnnotationDirectory.mapRefs unchanged = id :=
    funext AnnotationDirectory.mapRefs_unchanged
  have sameData : ClassData.mapRefs unchanged = id := funext ClassData.mapRefs_unchanged
  have sameValues : Value.mapRefsItems unchanged = id := funext Value.mapRefsItems_unchanged
  simp only [mapRefs, sameAnnotations, sameData, sameValues, Option.map_id, option_map_unchanged,
    map_unchanged]
  rfl

theorem Proto.mapRefs_unchanged (proto : Proto) : proto.mapRefs unchanged = proto := by
  simp [mapRefs, unchanged]

theorem Container.mapRefs_unchanged (container : Container) :
    container.mapRefs unchanged = container := by
  have sameIndex : unchanged .string = id := rfl
  have sameProtos : Proto.mapRefs unchanged = id := funext Proto.mapRefs_unchanged
  have sameFields : FieldId.mapRefs unchanged = id := rfl
  have sameMethods : MethodId.mapRefs unchanged = id := rfl
  have sameClasses : ClassDef.mapRefs unchanged = id := funext ClassDef.mapRefs_unchanged
  have sameValues : Value.mapRefsItems unchanged = id := funext Value.mapRefsItems_unchanged
  have sameHandles : MethodHandle.mapRefs unchanged = id := rfl
  simp [mapRefs, sameIndex, sameProtos, sameFields, sameMethods, sameClasses, sameValues,
    sameHandles]

end Unchanged

/-! ## What a value refers to -/

namespace Value

/-- Sorted elements are the elements. -/
theorem mem_sortOn
    {α : Type}
    {key : α → UInt32}
    {list : List α}
    {x : α} :
    x ∈ sortOn key list ↔ x ∈ list :=
  (sortOn_perm key list).mem_iff

theorem mem_refs_array
    {items : List Value}
    {ref : Reference} :
    ref ∈ (array items).refs ↔ ∃ item ∈ items, ref ∈ item.refs := by
  rw [refs, refsItems_eq, List.mem_flatMap]

theorem mem_refs_annotated
    {index : UInt32}
    {elements : List (UInt32 × Value)}
    {ref : Reference} :
    ref ∈ (annotated index elements).refs ↔
      ref = .long .type index ∨
        ∃ element ∈ elements, ref = .long .string element.1 ∨ ref ∈ element.2.refs := by
  simp only [refs, refsElements_eq, List.mem_append, List.mem_cons, List.mem_flatMap, mem_sortOn,
    List.mem_map]
  constructor
  · rintro (⟨part, ⟨element, member, rfl⟩, rfl⟩ | rfl | ⟨part, ⟨element, member, rfl⟩, refers⟩)
    · exact .inr ⟨element, member, .inl rfl⟩
    · exact .inl rfl
    · exact .inr ⟨element, member, .inr refers⟩
  · rintro (rfl | ⟨element, member, rfl | refers⟩)
    · exact .inr (.inl rfl)
    · exact .inl ⟨_, ⟨element, member, rfl⟩, rfl⟩
    · exact .inr (.inr ⟨_, ⟨element, member, rfl⟩, refers⟩)

/-- Putting elements in order changes no reference. -/
theorem mem_refs_arranged
    {value : Value}
    {ref : Reference} :
    ref ∈ value.arranged.refs ↔ ref ∈ value.refs := by
  induction value using nestedInduction generalizing ref with
  | step value inductionHypothesis =>
      cases value with
      | array items =>
          rw [arranged, arrangedItems_eq, mem_refs_array, mem_refs_array]
          constructor
          · rintro ⟨item, member, refers⟩
            obtain ⟨old, isItem, rfl⟩ := List.mem_map.mp member
            exact ⟨old, isItem, (inductionHypothesis old isItem).mp refers⟩
          · rintro ⟨item, member, refers⟩
            exact ⟨_, List.mem_map_of_mem member, (inductionHypothesis item member).mpr refers⟩
      | annotated index elements =>
          have element_iff {element : UInt32 × Value} (member : element ∈ elements) :
              ref ∈ element.2.arranged.refs ↔ ref ∈ element.2.refs :=
            inductionHypothesis element.2 (List.mem_map_of_mem member)
          rw [arranged, arrangedElements_eq, mem_refs_annotated, mem_refs_annotated]
          simp only [mem_sortOn]
          constructor
          · rintro (rfl | ⟨element, member, named⟩)
            · exact .inl rfl
            · obtain ⟨old, isElement, rfl⟩ := List.mem_map.mp member
              exact .inr ⟨old, isElement, named.imp_right (element_iff isElement).mp⟩
          · rintro (rfl | ⟨element, member, named⟩)
            · exact .inl rfl
            · exact .inr ⟨_, List.mem_map_of_mem member,
                named.imp_right (element_iff member).mpr⟩
      | _ =>
          rfl

end Value

/-- Putting an annotation's elements in order changes no reference. -/
theorem AnnotationItem.mem_refs_arranged
    {item : AnnotationItem}
    {ref : Reference} :
    ref ∈ item.arranged.refs ↔ ref ∈ item.refs := by
  have same :
      Value.annotated item.arranged.type item.arranged.elements =
        (Value.annotated item.type item.elements).arranged := by
    rfl
  rw [refs, refs, List.mem_cons, List.mem_cons, same, Value.mem_refs_arranged]
  rfl

end DexPatch
