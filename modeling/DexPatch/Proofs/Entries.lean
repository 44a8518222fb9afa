import DexPatch.Proofs.Correspondence

namespace DexPatch

/-!
# Entries with their references resolved

A number means the entry that it names, and the entry means what its own
numbers name.  Two numbers of two containers mean the same if this is so down
to the strings.
-/

/-- A pool entry, its own references resolved down to strings. -/
inductive PoolEntry where
  | string (string : PoolString)
  | type (descriptor : PoolString)
  | proto (shorty returnType : PoolString) (parameters : List PoolString)
  | field (declaringType type name : PoolString)
  | method (declaringType : PoolString) (proto : PoolEntry) (name : PoolString)
  | methodHandle (kind : UInt16) (target : PoolEntry)
deriving DecidableEq, Repr

namespace Container

/-- The string with a number. -/
def string? (container : Container) (index : UInt32) : Option PoolString :=
  container.strings[index.toNat]?

/-- The descriptor of the type with a number. -/
def type? (container : Container) (index : UInt32) : Option PoolString :=
  container.types[index.toNat]?.bind container.string?

/-- The prototype with a number. -/
def proto? (container : Container) (index : UInt32) : Option PoolEntry :=
  container.protos[index.toNat]?.bind fun proto => do
    let shorty ← container.string? proto.shorty
    let returnType ← container.type? proto.returnType
    let parameters ← proto.parameters.mapM container.type?
    return .proto shorty returnType parameters

/-- The field with a number. -/
def field? (container : Container) (index : UInt32) : Option PoolEntry :=
  container.fields[index.toNat]?.bind fun id => do
    let declaringType ← container.type? id.declaringType
    let type ← container.type? id.type
    let name ← container.string? id.name
    return .field declaringType type name

/-- The method with a number. -/
def poolMethod? (container : Container) (index : UInt32) : Option PoolEntry :=
  container.methods[index.toNat]?.bind fun id => do
    let declaringType ← container.type? id.declaringType
    let proto ← container.proto? id.proto
    let name ← container.string? id.name
    return .method declaringType proto name

/-- The method handle with a number. -/
def methodHandle? (container : Container) (index : UInt32) : Option PoolEntry :=
  container.methodHandles[index.toNat]?.bind fun handle => do
    let target ←
      if handle.targetsField then container.field? handle.target
      else container.poolMethod? handle.target
    return .methodHandle handle.kind target

/-- The entry with a number, for the pools that values refer to. -/
def meaning? (container : Container) : Pool → UInt32 → Option PoolEntry
  | .string, index => (container.string? index).map .string
  | .type, index => (container.type? index).map .type
  | .proto, index => container.proto? index
  | .field, index => container.field? index
  | .method, index => container.poolMethod? index
  | .methodHandle, index => container.methodHandle? index
  | _, _ => none

end Container

/-- The numbers mean the same entry, each in its container. -/
def SameEntry (before after : Container) (pool : Pool) (index other : UInt32) : Prop :=
  ∃ entry, before.meaning? pool index = some entry ∧ after.meaning? pool other = some entry

/-- The values mean the same, each in its container: they differ in nothing but the numbers of the
entries that they refer to and the order of the elements of annotations. -/
def SameValue (before after : Container) (value other : Value) : Prop :=
  ∃ renumber : RefMap,
    (∀ ref ∈ value.refs,
        SameEntry before after ref.pool ref.index (renumber ref.pool ref.index)) ∧
      (value.mapRefs renumber).Reordered other

namespace Container

variable {container : Container} {renumbering : Renumbering}

section Renumbered

variable (covers : renumbering.Covers container) (numbered : container.Numbered)

include covers numbered

theorem string?_renumbered (index : UInt32) :
    (container.renumbered renumbering).string? (renumbering.map .string index) =
      container.string? index :=
  covers.strings.getElem?_arrange_rank numbered.strings index

theorem type?_renumbered (index : UInt32) :
    (container.renumbered renumbering).type? (renumbering.map .type index) =
      container.type? index := by
  have found :
      (container.renumbered renumbering).types[(renumbering.map .type index).toNat]? =
        container.types[index.toNat]?.map (renumbering.map .string) :=
    covers.types.getElem?_arrange_map_rank numbered.types _ index
  rw [type?, type?, found, Option.bind_map]
  exact Option.bind_congr fun string _ => string?_renumbered covers numbered string

theorem proto?_renumbered (index : UInt32) :
    (container.renumbered renumbering).proto? (renumbering.map .proto index) =
      container.proto? index := by
  have found :
      (container.renumbered renumbering).protos[(renumbering.map .proto index).toNat]? =
        container.protos[index.toNat]?.map (Proto.mapRefs renumbering.map) :=
    covers.protos.getElem?_arrange_map_rank numbered.protos _ index
  have types :
      (container.renumbered renumbering).type? ∘ renumbering.map .type = container.type? :=
    funext (type?_renumbered covers numbered)
  rw [proto?, proto?, found, Option.bind_map]
  refine Option.bind_congr fun proto _ => ?_
  simp only [Function.comp, Proto.mapRefs, string?_renumbered covers numbered,
    type?_renumbered covers numbered, List.mapM_map, types]

theorem field?_renumbered (index : UInt32) :
    (container.renumbered renumbering).field? (renumbering.map .field index) =
      container.field? index := by
  have found :
      (container.renumbered renumbering).fields[(renumbering.map .field index).toNat]? =
        container.fields[index.toNat]?.map (FieldId.mapRefs renumbering.map) :=
    covers.fields.getElem?_arrange_map_rank numbered.fields _ index
  rw [field?, field?, found, Option.bind_map]
  refine Option.bind_congr fun id _ => ?_
  simp only [Function.comp, FieldId.mapRefs, string?_renumbered covers numbered,
    type?_renumbered covers numbered]

theorem poolMethod?_renumbered (index : UInt32) :
    (container.renumbered renumbering).poolMethod? (renumbering.map .method index) =
      container.poolMethod? index := by
  have found :
      (container.renumbered renumbering).methods[(renumbering.map .method index).toNat]? =
        container.methods[index.toNat]?.map (MethodId.mapRefs renumbering.map) :=
    covers.methods.getElem?_arrange_map_rank numbered.methods _ index
  rw [poolMethod?, poolMethod?, found, Option.bind_map]
  refine Option.bind_congr fun id _ => ?_
  simp only [Function.comp, MethodId.mapRefs, string?_renumbered covers numbered,
    type?_renumbered covers numbered, proto?_renumbered covers numbered]

theorem methodHandle?_renumbered (index : UInt32) :
    (container.renumbered renumbering).methodHandle? index = container.methodHandle? index := by
  have found :
      (container.renumbered renumbering).methodHandles[index.toNat]? =
        container.methodHandles[index.toNat]?.map (MethodHandle.mapRefs renumbering.map) :=
    List.getElem?_map
  rw [methodHandle?, methodHandle?, found, Option.bind_map]
  refine Option.bind_congr fun handle _ => ?_
  have kind : (handle.mapRefs renumbering.map).targetsField = handle.targetsField := rfl
  simp only [Function.comp, kind]
  by_cases field : handle.targetsField
  · simp only [field, if_true, MethodHandle.mapRefs, MethodHandle.targetPool,
      field?_renumbered covers numbered]
  · simp only [field, Bool.false_eq_true, if_false, MethodHandle.mapRefs,
      MethodHandle.targetPool, poolMethod?_renumbered covers numbered]

/-- A number and its new number mean the same. -/
theorem meaning?_renumbered (pool : Pool) (index : UInt32) :
    (container.renumbered renumbering).meaning? pool (renumbering.map pool index) =
      container.meaning? pool index := by
  cases pool with
  | string => exact congrArg (Option.map PoolEntry.string) (string?_renumbered covers numbered index)
  | type => exact congrArg (Option.map PoolEntry.type) (type?_renumbered covers numbered index)
  | proto => exact proto?_renumbered covers numbered index
  | field => exact field?_renumbered covers numbered index
  | method => exact poolMethod?_renumbered covers numbered index
  | methodHandle => exact methodHandle?_renumbered covers numbered index
  | _ => rfl

end Renumbered

/-- A number and its number in the canonical form mean the same. -/
theorem meaning?_canonical
    (numbered : container.Numbered)
    (pool : Pool)
    (index : UInt32) :
    container.canonical.meaning? pool ((Renumbering.ofContainer container).map pool index) =
      container.meaning? pool index := by
  rw [← meaning?_renumbered (Renumbering.covers_ofContainer container) numbered]
  cases pool <;> rfl

end Container

/-! ## Values that mean the same -/

namespace Value

/-- Renumbering twice is renumbering once by both maps. -/
theorem mapRefs_mapRefs
    (first second : RefMap)
    (value : Value) :
    (value.mapRefs first).mapRefs second =
      value.mapRefs fun pool index => second pool (first pool index) := by
  induction value using nestedInduction with
  | step value inductionHypothesis =>
      cases value with
      | array items =>
          simp only [mapRefs, mapRefsItems_eq, List.map_map]
          exact congrArg _ (List.map_congr_left inductionHypothesis)
      | annotated index elements =>
          simp only [mapRefs, mapRefsElements_eq, List.map_map]
          refine congrArg _ (List.map_congr_left fun element member => ?_)
          exact Prod.ext rfl (inductionHypothesis element.2 (List.mem_map_of_mem member))
      | _ =>
          rfl

/-- Reordered values are still so when they are renumbered. -/
theorem Reordered.mapRefs
    {value other : Value}
    (reordered : value.Reordered other)
    (renumber : RefMap) :
    (value.mapRefs renumber).Reordered (other.mapRefs renumber) := by
  induction reordered with
  | refl =>
      exact .refl _
  | symm _ inductionHypothesis =>
      exact .symm inductionHypothesis
  | trans _ _ firstHypothesis secondHypothesis =>
      exact .trans firstHypothesis secondHypothesis
  | item _ inductionHypothesis =>
      simp only [Value.mapRefs, mapRefsItems_eq, List.map_append, List.map_cons]
      exact .item inductionHypothesis
  | element _ inductionHypothesis =>
      simp only [Value.mapRefs, mapRefsElements_eq, List.map_append, List.map_cons]
      exact .element inductionHypothesis
  | permuted perm =>
      simp only [Value.mapRefs, mapRefsElements_eq]
      exact .permuted (perm.map _)

end Value

/-- Neither an array nor an annotation. -/
def Value.Plain : Value → Prop
  | .array _ => False
  | .annotated _ _ => False
  | _ => True

/-- A plain value is reordered into itself only, and only from itself. -/
theorem Value.Reordered.eq_of_plain
    {value other : Value}
    (reordered : value.Reordered other) :
    (value.Plain → value = other) ∧ (other.Plain → value = other) := by
  induction reordered with
  | refl =>
      exact ⟨fun _ => rfl, fun _ => rfl⟩
  | symm _ inductionHypothesis =>
      exact ⟨fun plain => (inductionHypothesis.2 plain).symm,
        fun plain => (inductionHypothesis.1 plain).symm⟩
  | trans _ _ firstHypothesis secondHypothesis =>
      constructor
      · intro plain
        obtain rfl := firstHypothesis.1 plain
        exact secondHypothesis.1 plain
      · intro plain
        obtain rfl := secondHypothesis.2 plain
        exact firstHypothesis.2 plain
  | item =>
      exact ⟨False.elim, False.elim⟩
  | element =>
      exact ⟨False.elim, False.elim⟩
  | permuted =>
      exact ⟨False.elim, False.elim⟩

/-- A value means the same as the canonical form of another one if it means the same as that. -/
theorem sameValue_canonical_iff
    {container : Container}
    (numbered : container.Numbered)
    {value other : Value} :
    SameValue container container.canonical value
        (other.mapRefs (Renumbering.ofContainer container).map).arranged ↔
      SameValue container container value other := by
  have covers := Renumbering.covers_ofContainer container
  have sameEntry := Container.meaning?_canonical numbered
  constructor
  · rintro ⟨renumber, entries, reordered⟩
    choose back isBack using Container.map_surjective covers numbered
    have backAgain (pool : Pool) (index : UInt32) :
        back pool ((Renumbering.ofContainer container).map pool index) = index :=
      Container.map_injective covers numbered pool (isBack pool _)
    refine ⟨fun pool index => back pool (renumber pool index), fun ref refers => ?_, ?_⟩
    · obtain ⟨entry, isEntry, isEntryAfter⟩ := entries ref refers
      refine ⟨entry, isEntry, ?_⟩
      rw [← sameEntry, isBack]
      exact isEntryAfter
    · have mapped :=
        (Value.Reordered.trans reordered (.symm (Value.reordered_arranged _))).mapRefs back
      rw [Value.mapRefs_mapRefs, Value.mapRefs_mapRefs] at mapped
      simp only [backAgain] at mapped
      rwa [show other.mapRefs (fun _ index => index) = other from other.mapRefs_unchanged] at mapped
  · rintro ⟨renumber, entries, reordered⟩
    refine ⟨fun pool index => (Renumbering.ofContainer container).map pool (renumber pool index),
      fun ref refers => ?_, ?_⟩
    · obtain ⟨entry, isEntry, isEntryToo⟩ := entries ref refers
      exact ⟨entry, isEntry, (sameEntry _ _).trans isEntryToo⟩
    · rw [← Value.mapRefs_mapRefs]
      exact (reordered.mapRefs _).trans (Value.reordered_arranged _)

namespace Container

variable {container : Container}

/-! ## Numbers of entries mean something -/

/-- A type has a descriptor if the references inside the pools lead to entries. -/
theorem exists_type?
    (pools : ∀ ref ∈ container.poolRefs, container.Leads ref)
    {index : UInt32}
    (inside : index.toNat < container.types.size) :
    ∃ descriptor, container.type? index = some descriptor := by
  have string : container.types[index.toNat].toNat < container.strings.size :=
    ((forall_poolRefs_iff.mp pools).1 _ (Array.getElem_mem inside)).1
  refine ⟨container.strings[container.types[index.toNat].toNat], ?_⟩
  rw [type?, Array.getElem?_eq_getElem inside, Option.bind_some, string?,
    Array.getElem?_eq_getElem string]

/-- A field means something if the references inside the pools lead to entries. -/
theorem exists_field?
    (pools : ∀ ref ∈ container.poolRefs, container.Leads ref)
    {index : UInt32}
    (inside : index.toNat < container.fields.size) :
    ∃ entry, container.field? index = some entry := by
  have lead := (forall_poolRefs_iff.mp pools).2.2.1 _ (Array.getElem_mem inside)
  obtain ⟨leadsDeclaring, leadsName, leadsType⟩ := FieldId.forall_mem_refs_iff.mp lead
  obtain ⟨declaringType, isDeclaring⟩ :
      ∃ descriptor,
        container.type? container.fields[index.toNat].declaringType = some descriptor :=
    exists_type? pools leadsDeclaring.1
  obtain ⟨type, isType⟩ :
      ∃ descriptor, container.type? container.fields[index.toNat].type = some descriptor :=
    exists_type? pools leadsType.1
  have inStrings : container.fields[index.toNat].name.toNat < container.strings.size :=
    leadsName.1
  obtain ⟨name, isName⟩ :
      ∃ string, container.string? container.fields[index.toNat].name = some string :=
    ⟨_, Array.getElem?_eq_getElem inStrings⟩
  refine ⟨.field declaringType type name, ?_⟩
  rw [field?, Array.getElem?_eq_getElem inside, Option.bind_some, isDeclaring]
  simp [isType, isName]

end Container

end DexPatch
