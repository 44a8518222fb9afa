import DexPatch.Proofs.Entries

namespace DexPatch

/-!
# Renumbering twice

To renumber what was renumbered is to renumber once by both maps.  Only code
needs a condition: an operand that the first map would have cut off is not one
that the second can follow.
-/

/-- One renumbering after another. -/
def RefMap.andThen (first second : RefMap) : RefMap :=
  fun pool index => second pool (first pool index)

variable {first second : RefMap}

/-! ## Values and annotations -/

theorem Value.mapRefsItems_mapRefsItems (items : List Value) :
    Value.mapRefsItems second (Value.mapRefsItems first items) =
      Value.mapRefsItems (first.andThen second) items := by
  simp only [Value.mapRefsItems_eq, List.map_map]
  exact List.map_congr_left fun item _ => item.mapRefs_mapRefs first second

theorem AnnotationItem.mapRefs_mapRefs (item : AnnotationItem) :
    (item.mapRefs first).mapRefs second = item.mapRefs (first.andThen second) := by
  have elements :
      Value.mapRefsElements second (Value.mapRefsElements first item.elements) =
        Value.mapRefsElements (first.andThen second) item.elements := by
    simp only [Value.mapRefsElements_eq, List.map_map]
    refine List.map_congr_left fun element _ => ?_
    exact Prod.ext rfl (element.2.mapRefs_mapRefs first second)
  simp only [mapRefs, elements]
  rfl

theorem AnnotationSet.mapRefs_mapRefs (set : AnnotationSet) :
    AnnotationSet.mapRefs second (AnnotationSet.mapRefs first set) =
      AnnotationSet.mapRefs (first.andThen second) set := by
  simp only [mapRefs, List.map_map]
  exact List.map_congr_left fun item _ => item.mapRefs_mapRefs

theorem AnnotationDirectory.mapRefs_mapRefs (directory : AnnotationDirectory) :
    (directory.mapRefs first).mapRefs second = directory.mapRefs (first.andThen second) := by
  simp only [mapRefs, List.map_map, Option.map_map, Function.comp_def,
    AnnotationSet.mapRefs_mapRefs]
  rfl

/-! ## Bodies -/

theorem DebugOp.mapRefs_mapRefs (op : DebugOp) :
    (op.mapRefs first).mapRefs second = op.mapRefs (first.andThen second) := by
  cases op <;> simp only [mapRefs, Option.map_map] <;> rfl

theorem DebugInfo.mapRefs_mapRefs (debug : DebugInfo) :
    (debug.mapRefs first).mapRefs second = debug.mapRefs (first.andThen second) := by
  have ops :
      DebugOp.mapRefs second ∘ DebugOp.mapRefs first = DebugOp.mapRefs (first.andThen second) :=
    funext DebugOp.mapRefs_mapRefs
  simp only [mapRefs, List.map_map, Function.comp_def, Option.map_map, ← ops]
  rfl

theorem CatchHandler.mapRefs_mapRefs (handler : CatchHandler) :
    (handler.mapRefs first).mapRefs second = handler.mapRefs (first.andThen second) := by
  simp only [mapRefs, List.map_map]
  rfl

/-- Operands that keep their new numbers in full can be renumbered again. -/
theorem mapPoolOperands_mapPoolOperands
    {instruction : List UInt16}
    (follow :
      poolOperands (mapPoolOperands first instruction) =
        (poolOperands instruction).map (Reference.renumber first)) :
    mapPoolOperands second (mapPoolOperands first instruction) =
      mapPoolOperands (first.andThen second) instruction := by
  cases operandShape instruction with
  | none _ kept =>
      rw [kept, kept, kept]
  | jumbo kind jumbo =>
      simp only [mapPoolOperands_of_jumbo _ kind jumbo, wideIndex_halves, RefMap.andThen]
  | both kind narrow =>
      rw [mapPoolOperands_of_both first kind narrow, poolOperands_of_both kind narrow,
        poolOperands_of_both kind narrow] at follow
      simp only [List.map_cons, List.map_nil, List.cons.injEq, Reference.brief,
        Reference.renumber, Reference.mk.injEq, and_true, true_and] at follow
      simp only [mapPoolOperands_of_both _ kind narrow, follow.1, follow.2, RefMap.andThen]
  | one kind narrow one =>
      rw [mapPoolOperands_of_one first kind narrow one, poolOperands_of_one kind narrow one,
        poolOperands_of_one kind narrow one] at follow
      simp only [List.map_cons, List.map_nil, List.cons.injEq, Reference.brief,
        Reference.renumber, Reference.mk.injEq, and_true, true_and] at follow
      simp only [mapPoolOperands_of_one _ kind narrow one, follow, RefMap.andThen]

namespace Body

variable {body : Body} (follow : body.OperandsFollow first)

include follow

/-- The operands of each instruction get their new numbers in full. -/
theorem OperandsFollow.poolOperands_eq
    {instruction : List UInt16}
    (member : instruction ∈ (split body.code).instructions) :
    poolOperands (mapPoolOperands first instruction) =
      (poolOperands instruction).map (Reference.renumber first) := by
  rw [OperandsFollow, mapRefs, split_mapCodeOperands, List.map_map] at follow
  exact List.map_inj_left.mp follow instruction member

theorem mapRefs_mapRefs :
    (body.mapRefs first).mapRefs second = body.mapRefs (first.andThen second) := by
  have debug : DebugInfo.mapRefs second ∘ DebugInfo.mapRefs first =
      DebugInfo.mapRefs (first.andThen second) :=
    funext DebugInfo.mapRefs_mapRefs
  have handlers : CatchHandler.mapRefs second ∘ CatchHandler.mapRefs first =
      CatchHandler.mapRefs (first.andThen second) :=
    funext CatchHandler.mapRefs_mapRefs
  have code :
      mapCodeOperands second (mapCodeOperands first body.code) =
        mapCodeOperands (first.andThen second) body.code := by
    rw [mapCodeOperands, split_mapCodeOperands, mapCodeOperands]
    simp only [List.map_map]
    refine congrArg (fun instructions => List.flatten instructions ++ (split body.code).rest)
      (List.map_congr_left fun instruction member => ?_)
    exact mapPoolOperands_mapPoolOperands (follow.poolOperands_eq member)
  simp only [mapRefs, Option.map_map, List.map_map, debug, handlers, code]

end Body

/-! ## Classes and containers -/

/-- The operands of all bodies of a class get their new numbers in full. -/
def ClassDef.OperandsFollow (renumber : RefMap) (classDef : ClassDef) : Prop :=
  ∀ method ∈ classDef.allMethods, ∀ body ∈ method.body, body.OperandsFollow renumber

theorem MemberMethod.mapRefs_mapRefs
    {method : MemberMethod}
    (follow : ∀ body ∈ method.body, body.OperandsFollow first) :
    (method.mapRefs first).mapRefs second = method.mapRefs (first.andThen second) := by
  cases isBody : method.body with
  | none =>
      simp only [mapRefs, isBody, Option.map_none]
      rfl
  | some body =>
      simp only [mapRefs, isBody, Option.map_some, Body.mapRefs_mapRefs (follow body isBody)]
      rfl

theorem ClassData.mapRefs_mapRefs
    {data : ClassData}
    (follow : ∀ method ∈ data.allMethods, ∀ body ∈ method.body, body.OperandsFollow first) :
    (data.mapRefs first).mapRefs second = data.mapRefs (first.andThen second) := by
  obtain ⟨direct, virtual⟩ := List.forall_mem_append.mp follow
  have methods {list : List MemberMethod}
      (each : ∀ method ∈ list, ∀ body ∈ method.body, body.OperandsFollow first) :
      list.map (MemberMethod.mapRefs second ∘ MemberMethod.mapRefs first) =
        list.map (MemberMethod.mapRefs (first.andThen second)) :=
    List.map_congr_left fun method member => MemberMethod.mapRefs_mapRefs (each method member)
  simp only [mapRefs, List.map_map, methods direct, methods virtual]
  rfl

theorem ClassDef.mapRefs_mapRefs
    {classDef : ClassDef}
    (follow : classDef.OperandsFollow first) :
    (classDef.mapRefs first).mapRefs second = classDef.mapRefs (first.andThen second) := by
  have annotations :
      AnnotationDirectory.mapRefs second ∘ AnnotationDirectory.mapRefs first =
        AnnotationDirectory.mapRefs (first.andThen second) :=
    funext AnnotationDirectory.mapRefs_mapRefs
  have values :
      Value.mapRefsItems second ∘ Value.mapRefsItems first =
        Value.mapRefsItems (first.andThen second) :=
    funext Value.mapRefsItems_mapRefsItems
  have data :
      (classDef.data.map (ClassData.mapRefs first)).map (ClassData.mapRefs second) =
        classDef.data.map (ClassData.mapRefs (first.andThen second)) := by
    rw [Option.map_map]
    refine Option.map_congr fun data isData => ClassData.mapRefs_mapRefs ?_
    rwa [OperandsFollow, allMethods, isData] at follow
  simp only [mapRefs, data, annotations, values, Option.map_map, List.map_map]
  rfl

theorem Proto.mapRefs_mapRefs (proto : Proto) :
    (proto.mapRefs first).mapRefs second = proto.mapRefs (first.andThen second) := by
  simp only [mapRefs, List.map_map]
  rfl

/-- The operands of all bodies of a container get their new numbers in full. -/
def Container.OperandsFollow (renumber : RefMap) (container : Container) : Prop :=
  ∀ classDef ∈ container.classes, classDef.OperandsFollow renumber

end DexPatch
