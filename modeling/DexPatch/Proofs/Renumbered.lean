import DexPatch.Proofs.Resolution

namespace DexPatch

/-!
# A renumbered container

A renumbering gives each entry of a pool a number of its own.  If the checks
of a container succeed, what it becomes when it is renumbered is written as it
is: its references lead to the same entries as before.
-/

namespace Renumbering

/-- A renumbering of all pools of a container. -/
structure Covers (renumbering : Renumbering) (container : Container) : Prop where
  strings : renumbering.strings.Covers container.strings.size
  types : renumbering.types.Covers container.types.size
  protos : renumbering.protos.Covers container.protos.size
  fields : renumbering.fields.Covers container.fields.size
  methods : renumbering.methods.Covers container.methods.size

/-- The canonical order is one of all pools. -/
theorem covers_ofContainer (container : Container) :
    (ofContainer container).Covers container := by
  constructor <;> exact Numbering.covers_ofKeys_map _ _

end Renumbering

/-! ## References part by part -/

section References

variable {holds : Reference → Prop}

theorem Proto.forall_mem_refs_iff {proto : Proto} :
    (∀ ref ∈ proto.refs, holds ref) ↔
      holds (.long .string proto.shorty) ∧
        (∀ type ∈ proto.parameters, holds (.long .type type)) ∧
          holds (.long .type proto.returnType) := by
  simp [refs, or_imp, forall_and]

theorem FieldId.forall_mem_refs_iff {id : FieldId} :
    (∀ ref ∈ id.refs, holds ref) ↔
      holds (.long .type id.declaringType) ∧ holds (.long .string id.name) ∧
        holds (.long .type id.type) := by
  simp [refs]

theorem MethodId.forall_mem_refs_iff {id : MethodId} :
    (∀ ref ∈ id.refs, holds ref) ↔
      holds (.long .type id.declaringType) ∧ holds (.long .string id.name) ∧
        holds (.long .proto id.proto) := by
  simp [refs]

theorem ClassData.forall_memberRefs_iff {data : ClassData} :
    (∀ ref ∈ data.memberRefs, holds ref) ↔
      (∀ member ∈ data.staticFields ++ data.instanceFields, holds (.long .field member.field)) ∧
        ∀ member ∈ data.directMethods ++ data.virtualMethods,
          holds (.long .method member.method) := by
  rw [memberRefs, List.forall_mem_append, List.forall_mem_map, List.forall_mem_map]

/-- The references inside the pools are those of the entries. -/
theorem Container.forall_poolRefs_iff {container : Container} :
    (∀ ref ∈ container.poolRefs, holds ref) ↔
      (∀ string ∈ container.types, holds (.long .string string)) ∧
        (∀ proto ∈ container.protos, ∀ ref ∈ proto.refs, holds ref) ∧
          (∀ id ∈ container.fields, ∀ ref ∈ id.refs, holds ref) ∧
            ∀ id ∈ container.methods, ∀ ref ∈ id.refs, holds ref := by
  simp only [poolRefs, List.forall_mem_append, List.forall_mem_map, List.forall_mem_flatMap,
    Array.mem_toList_iff, and_assoc]

end References

namespace Container

variable {container : Container} {renumbering : Renumbering}

/-- Every entry of the container's pools has a number. -/
structure Numbered (container : Container) : Prop where
  strings : container.strings.size ≤ 4294967296
  types : container.types.size ≤ 4294967296
  protos : container.protos.size ≤ 4294967296
  fields : container.fields.size ≤ 4294967296
  methods : container.methods.size ≤ 4294967296

/-- Renumbering moves entries and neither adds nor drops any. -/
theorem poolSize_renumbered
    (covers : renumbering.Covers container)
    (pool : Pool) :
    (container.renumbered renumbering).poolSize pool = container.poolSize pool := by
  cases pool with
  | string => exact covers.strings.size_arrange
  | type => exact covers.types.size_arrange_map _
  | proto => exact covers.protos.size_arrange_map _
  | field => exact covers.fields.size_arrange_map _
  | method => exact covers.methods.size_arrange_map _
  | callSite => exact List.length_map _
  | methodHandle => exact List.length_map _
  | _ => rfl

/-- The numbers of entries become numbers of entries, and no other numbers do. -/
theorem map_lt_poolSize_iff
    (covers : renumbering.Covers container)
    (pool : Pool)
    (index : UInt32) :
    (renumbering.map pool index).toNat < container.poolSize pool ↔
      index.toNat < container.poolSize pool := by
  cases pool with
  | string => exact covers.strings.rank_lt_iff
  | type => exact covers.types.rank_lt_iff
  | proto => exact covers.protos.rank_lt_iff
  | field => exact covers.fields.rank_lt_iff
  | method => exact covers.methods.rank_lt_iff
  | _ => rfl

/-- No two numbers become one. -/
theorem map_injective
    (covers : renumbering.Covers container)
    (numbered : container.Numbered)
    (pool : Pool) :
    Function.Injective (renumbering.map pool) := by
  intro first second same
  cases pool with
  | string => exact covers.strings.rank_injective numbered.strings same
  | type => exact covers.types.rank_injective numbered.types same
  | proto => exact covers.protos.rank_injective numbered.protos same
  | field => exact covers.fields.rank_injective numbered.fields same
  | method => exact covers.methods.rank_injective numbered.methods same
  | _ => exact same

/-- Every number is one that some number becomes. -/
theorem map_surjective
    (covers : renumbering.Covers container)
    (numbered : container.Numbered)
    (pool : Pool) :
    Function.Surjective (renumbering.map pool) := by
  intro index
  cases pool with
  | string => exact covers.strings.rank_surjective numbered.strings index
  | type => exact covers.types.rank_surjective numbered.types index
  | proto => exact covers.protos.rank_surjective numbered.protos index
  | field => exact covers.fields.rank_surjective numbered.fields index
  | method => exact covers.methods.rank_surjective numbered.methods index
  | _ => exact ⟨index, rfl⟩

/-- Long references lead to entries after renumbering if they did before. -/
theorem leads_renumber
    (covers : renumbering.Covers container)
    {ref : Reference}
    (long : ref.short = false)
    (leads : container.Leads ref) :
    (container.renumbered renumbering).Leads (ref.renumber renumbering.map) := by
  refine ⟨?_, by simp [Reference.renumber, long]⟩
  rw [poolSize_renumbered covers]
  exact (map_lt_poolSize_iff covers ref.pool ref.index).mpr leads.1

/-! ## References of what was renumbered -/

/-- The references inside the pools are renumbered with everything else. -/
theorem poolRefs_renumbered_perm (covers : renumbering.Covers container) :
    (container.renumbered renumbering).poolRefs.Perm
      (container.poolRefs.map (Reference.renumber renumbering.map)) := by
  have protos (proto : Proto) :
      (proto.mapRefs renumbering.map).refs =
        proto.refs.map (Reference.renumber renumbering.map) := by
    simp [Proto.refs, Proto.mapRefs, Reference.renumber, Reference.long]
  have fields (id : FieldId) :
      (id.mapRefs renumbering.map).refs =
        id.refs.map (Reference.renumber renumbering.map) := rfl
  have methods (id : MethodId) :
      (id.mapRefs renumbering.map).refs =
        id.refs.map (Reference.renumber renumbering.map) := rfl
  have typeRefs :=
    (covers.types.arrange_map_perm (renumbering.map .string)).map (Reference.long .string)
  have protoRefs :=
    (covers.protos.arrange_map_perm (Proto.mapRefs renumbering.map)).flatMap_right Proto.refs
  have fieldRefs :=
    (covers.fields.arrange_map_perm (FieldId.mapRefs renumbering.map)).flatMap_right FieldId.refs
  have methodRefs :=
    (covers.methods.arrange_map_perm (MethodId.mapRefs renumbering.map)).flatMap_right MethodId.refs
  have all := ((typeRefs.append protoRefs).append fieldRefs).append methodRefs
  simp only [List.flatMap_map, List.map_map, protos, fields, methods] at all
  simp only [poolRefs, List.map_append, List.map_map, List.map_flatMap]
  exact all

/-- No reference inside the pools is a short one. -/
theorem long_of_mem_poolRefs
    {ref : Reference}
    (refers : ref ∈ container.poolRefs) :
    ref.short = false := by
  have all : ∀ ref ∈ container.poolRefs, ref.short = false := by
    refine forall_poolRefs_iff.mpr ⟨?_, ?_, ?_, ?_⟩
    · exact fun string _ => rfl
    · exact fun proto _ => Proto.forall_mem_refs_iff.mpr ⟨rfl, fun _ _ => rfl, rfl⟩
    · exact fun id _ => FieldId.forall_mem_refs_iff.mpr ⟨rfl, rfl, rfl⟩
    · exact fun id _ => MethodId.forall_mem_refs_iff.mpr ⟨rfl, rfl, rfl⟩
  exact all ref refers

/-! ## Bodies -/

/-- A body that fits once it is renumbered fits when it is. -/
theorem BodyFits.renumbered
    {renumber : RefMap}
    {body : Body}
    (fits : container.BodyFits renumber body) :
    container.BodyFits RefMap.unchanged (body.mapRefs renumber) := by
  have sameHandlers :
      (body.mapRefs renumber).handlers.map (CatchHandler.mapRefs RefMap.unchanged) =
        body.handlers.map (CatchHandler.mapRefs renumber) :=
    map_eq_self fun handler _ => handler.mapRefs_unchanged
  refine ⟨?_, ?_, ?_, ?_⟩
  · intro instruction member ref refers
    simp only [Body.mapRefs, split_mapCodeOperands, List.mem_map] at member
    obtain ⟨old, isOld, rfl⟩ := member
    rw [poolOperands_mapPoolOperands renumber fun ref isOperand =>
      (fits.operands old isOld ref isOperand).2] at refers
    obtain ⟨operand, isOperand, rfl⟩ := List.mem_map.mp refers
    exact fits.operands old isOld operand isOperand
  · simpa only [Body.mapRefs, split_mapCodeOperands] using fits.complete
  · rw [sameHandlers]
    exact fits.handlers
  · rw [sameHandlers]
    exact fits.placed

theorem allMethods_mapRefs
    (renumber : RefMap)
    (classDef : ClassDef) :
    (classDef.mapRefs renumber).allMethods =
      classDef.allMethods.map (MemberMethod.mapRefs renumber) := by
  cases isData : classDef.data <;>
    simp [ClassDef.allMethods, ClassDef.mapRefs, isData, ClassData.allMethods, ClassData.mapRefs]

/-- The bodies of the renumbered container are the renumbered bodies. -/
theorem forall_bodies_renumbered {holds : Body → Prop} :
    (∀ classDef ∈ (container.renumbered renumbering).classes, ∀ method ∈ classDef.allMethods,
        ∀ body ∈ method.body, holds body) ↔
      ∀ classDef ∈ container.classes, ∀ method ∈ classDef.allMethods, ∀ body ∈ method.body,
        holds (body.mapRefs renumbering.map) := by
  simp only [renumbered, permutePools, mapRefs, List.forall_mem_map, allMethods_mapRefs,
    MemberMethod.mapRefs, Option.mem_def, Option.map_eq_some_iff, forall_exists_index, and_imp,
    forall_apply_eq_imp_iff₂]

/-- What passes the checks is, renumbered, a container that is written as it is. -/
theorem Checked.representable
    (covers : renumbering.Covers container)
    (pools : ∀ ref ∈ container.poolRefs, container.Leads ref)
    (checked : container.Checked (container.renumbered renumbering) renumbering.map) :
    (container.renumbered renumbering).Representable := by
  refine { checked with debug := ?_, bodies := ?_, pools := ?_ }
  · refine forall_bodies_renumbered.mpr fun classDef isClass method isMethod body isBody => ?_
    intro debug isDebug ref refers
    obtain ⟨old, isOld, rfl⟩ := Option.map_eq_some_iff.mp isDebug
    rw [DebugInfo.mapRefs_unchanged] at refers
    exact checked.debug classDef isClass method isMethod body isBody old isOld ref refers
  · exact forall_bodies_renumbered.mpr fun classDef isClass method isMethod body isBody =>
      (checked.bodies classDef isClass method isMethod body isBody).renumbered
  · intro ref refers
    obtain ⟨old, isOld, rfl⟩ :=
      List.mem_map.mp ((poolRefs_renumbered_perm covers).mem_iff.mp refers)
    exact leads_renumber covers (long_of_mem_poolRefs isOld) (pools old isOld)

end Container

end DexPatch
