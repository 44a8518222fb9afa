import DexPatch.Proofs.Ascending
import DexPatch.Proofs.Composed

namespace DexPatch

/-!
# The image depends on content alone

Where no two entries of a pool have one key, the canonical order is the only
one in which the keys ascend.  So a container whose entries are numbered in
another way has the same canonical form, and the same image.
-/

/-! ## One order for different keys -/

namespace Numbering

variable
  {α β : Type} (entries : Array α) (moved : Array β) (key : α → SortKey) (change : α → β)
  (otherKey : β → SortKey)

/-- Changed and permuted entries whose keys are still the same, and differ, are arranged as the
entries are. -/
theorem arrange_of_perm
    (different : (entries.toList.map key).Nodup)
    (same : ∀ entry, otherKey (change entry) = key entry)
    (perm : moved.toList.Perm (entries.toList.map change)) :
    (ofKeys (moved.toList.map otherKey)).arrange moved =
      ((ofKeys (entries.toList.map key)).arrange entries).map change := by
  have movedPerm := (covers_ofKeys_map moved otherKey).arrange_perm
  have arrangedPerm := (covers_ofKeys_map entries key).arrange_perm
  have onlyOne :
      ∀ first ∈ entries.toList, ∀ second ∈ entries.toList, key first = key second →
        first = second :=
    fun first isFirst second isSecond sameKey =>
      List.inj_on_of_nodup_map different isFirst isSecond sameKey
  refine Array.toList_inj.mp (List.Perm.eq_of_pairwise ?_ pairwise_arrange ?_ ?_)
  · intro first second isFirst isSecond inOrder inOrderToo
    obtain ⟨x, isX, rfl⟩ := List.mem_map.mp (perm.mem_iff.mp (movedPerm.mem_iff.mp isFirst))
    rw [Array.toList_map] at isSecond
    obtain ⟨y, isY, rfl⟩ := List.mem_map.mp isSecond
    rw [same, same, notBehind_iff_le] at inOrder inOrderToo
    rw [onlyOne x isX y (arrangedPerm.mem_iff.mp isY) (le_antisymm inOrder inOrderToo)]
  · rw [Array.toList_map, List.pairwise_map]
    simpa only [same] using pairwise_arrange
  · rw [Array.toList_map]
    exact (movedPerm.trans perm).trans (arrangedPerm.symm.map change)

/-- Entries that are moved and changed get the numbers that they get where they stand, and are
arranged as they are there. -/
theorem ofKeys_of_moved
    {numbering : Numbering}
    (covers : numbering.Covers entries.size)
    (few : entries.size ≤ 4294967296)
    (different : (entries.toList.map key).Nodup)
    (same : ∀ entry, otherKey (change entry) = key entry)
    (isMoved : moved = numbering.arrange (entries.map change)) :
    (∀ index,
        (ofKeys (moved.toList.map otherKey)).rank (numbering.rank index) =
          (ofKeys (entries.toList.map key)).rank index) ∧
      (ofKeys (moved.toList.map otherKey)).arrange moved =
        ((ofKeys (entries.toList.map key)).arrange entries).map change := by
  have perm : moved.toList.Perm (entries.toList.map change) :=
    isMoved ▸ covers.arrange_map_perm change
  have size : moved.size = entries.size := by rw [isMoved, covers.size_arrange_map]
  have arranged := arrange_of_perm entries moved key change otherKey different same perm
  refine ⟨fun index => ?_, arranged⟩
  have canonical := covers_ofKeys_map entries key
  have again := covers_ofKeys_map moved otherKey
  by_cases inside : index.toNat < entries.size
  · have here := canonical.getElem?_arrange_rank few index
    have there := again.getElem?_arrange_rank (size ▸ few) (numbering.rank index)
    have onItsWay := covers.getElem?_arrange_map_rank few change index
    rw [← isMoved] at onItsWay
    rw [arranged, Array.getElem?_map, onItsWay, Array.getElem?_eq_getElem inside,
      Option.map_some] at there
    rw [Array.getElem?_eq_getElem inside] at here
    obtain ⟨found, isFound, sameChange⟩ := Option.map_eq_some_iff.mp there
    have sameKey : key found = key entries[index.toNat] := by
      rw [← same found, sameChange, same]
    -- The keys of the arranged entries differ, so there is one place with this key.
    have differentThere :
        (((ofKeys (entries.toList.map key)).arrange entries).toList.map key).Nodup :=
      (canonical.arrange_perm.map key).nodup_iff.mpr different
    refine UInt32.toNat_inj.mp ((List.getElem?_inj ?_ differentThere).mp ?_)
    · rw [List.length_map, Array.length_toList, canonical.size_arrange, ← size]
      exact again.rank_lt (size ▸ covers.rank_lt inside)
    · rw [List.getElem?_map, List.getElem?_map, Array.getElem?_toList, Array.getElem?_toList,
        isFound, here, Option.map_some, Option.map_some, sameKey]
  · have outside := Nat.le_of_not_lt inside
    rw [covers.rank_of_le outside, again.rank_of_le (size ▸ outside),
      canonical.rank_of_le outside]

end Numbering

/-! ## One renumbering behind another -/

/-- Of three renumberings of a container the second, behind the first, does what the whole does. -/
structure Renumbering.Completes
    (first second whole : Renumbering)
    (container : Container) : Prop where
  map : first.map.andThen second.map = whole.map
  strings :
    second.strings.arrange (first.strings.arrange container.strings) =
      whole.strings.arrange container.strings
  types :
    second.types.arrange (first.types.arrange (container.types.map (first.map .string))) =
      (whole.types.arrange container.types).map (first.map .string)
  protos :
    second.protos.arrange (first.protos.arrange (container.protos.map (Proto.mapRefs first.map))) =
      (whole.protos.arrange container.protos).map (Proto.mapRefs first.map)
  fields :
    second.fields.arrange
        (first.fields.arrange (container.fields.map (FieldId.mapRefs first.map))) =
      (whole.fields.arrange container.fields).map (FieldId.mapRefs first.map)
  methods :
    second.methods.arrange
        (first.methods.arrange (container.methods.map (MethodId.mapRefs first.map))) =
      (whole.methods.arrange container.methods).map (MethodId.mapRefs first.map)

namespace Container

variable {container : Container}

/-- What was renumbered is renumbered again as by the whole, if no operand is cut off between. -/
theorem renumbered_renumbered
    {first second whole : Renumbering}
    (completes : first.Completes second whole container)
    (follow : container.OperandsFollow first.map) :
    (container.renumbered first).renumbered second = container.renumbered whole := by
  have pool
      {α : Type}
      {entries : Array α}
      {numbering next last : Numbering}
      (change : RefMap → α → α)
      (twice : ∀ entry,
        change second.map (change first.map entry) = change (first.map.andThen second.map) entry)
      (same :
        next.arrange (numbering.arrange (entries.map (change first.map))) =
          (last.arrange entries).map (change first.map)) :
      next.arrange ((numbering.arrange (entries.map (change first.map))).map (change second.map)) =
        last.arrange (entries.map (change whole.map)) := by
    have composed : change second.map ∘ change first.map = change whole.map :=
      completes.map ▸ funext twice
    rw [Numbering.Covers.arrange_map, same, Array.map_map, composed,
      Numbering.Covers.arrange_map]
  have protos := pool Proto.mapRefs Proto.mapRefs_mapRefs completes.protos
  have types := pool (fun f => f .string) (fun _ => rfl) completes.types
  have fields := pool FieldId.mapRefs (fun _ => rfl) completes.fields
  have methods := pool MethodId.mapRefs (fun _ => rfl) completes.methods
  have classes :
      (container.classes.map (ClassDef.mapRefs first.map)).map (ClassDef.mapRefs second.map) =
        container.classes.map (ClassDef.mapRefs whole.map) := by
    rw [List.map_map, ← completes.map]
    exact List.map_congr_left fun classDef isClass =>
      ClassDef.mapRefs_mapRefs (follow classDef isClass)
  have callSites :
      (container.callSites.map (Value.mapRefsItems first.map)).map
          (Value.mapRefsItems second.map) =
        container.callSites.map (Value.mapRefsItems whole.map) := by
    rw [List.map_map, ← completes.map]
    exact List.map_congr_left fun callSite _ => Value.mapRefsItems_mapRefsItems callSite
  have methodHandles :
      (container.methodHandles.map (MethodHandle.mapRefs first.map)).map
          (MethodHandle.mapRefs second.map) =
        container.methodHandles.map (MethodHandle.mapRefs whole.map) := by
    rw [List.map_map, ← completes.map]
    rfl
  simp only [renumbered, permutePools, mapRefs, completes.strings, types, protos, fields, methods,
    classes, callSites, methodHandles]

/-- Keys that differ once entries are changed and arranged differ before they are arranged. -/
theorem nodup_of_arrange_map
    {α β : Type}
    {entries : Array α}
    {numbering : Numbering}
    (covers : numbering.Covers entries.size)
    (change : α → β)
    (key : β → SortKey)
    (different : ((numbering.arrange (entries.map change)).toList.map key).Nodup) :
    (entries.toList.map fun entry => key (change entry)).Nodup := by
  have moved := ((covers.arrange_map_perm change).map key).nodup_iff.mp different
  rwa [List.map_map] at moved

/-- To put a renumbered container in canonical order is to put the container in canonical order. -/
theorem completes_ofContainer
    {renumbering : Renumbering}
    (covers : renumbering.Covers container)
    (numbered : container.Numbered)
    (different : ∀ pool, (container.poolKeys pool).Nodup) :
    renumbering.Completes (Renumbering.ofContainer (container.renumbered renumbering))
      (Renumbering.ofContainer container) container := by
  let whole := Renumbering.ofContainer container
  let moved := container.renumbered renumbering
  let after := Renumbering.ofContainer moved
  have wholeCovers := Renumbering.covers_ofContainer container
  have distinct (pool : Pool) := nodup_poolKeys_canonical numbered (different pool)
  have strings :
      (∀ index, after.strings.rank (renumbering.strings.rank index) = whole.strings.rank index) ∧
        after.strings.arrange moved.strings =
          (whole.strings.arrange container.strings).map id :=
    Numbering.ofKeys_of_moved container.strings moved.strings Renumbering.stringKey id
      Renumbering.stringKey covers.strings numbered.strings (different .string)
      (fun _ => rfl) (by rw [Array.map_id]; rfl)
  rw [Array.map_id] at strings
  have types :
      (∀ index, after.types.rank (renumbering.types.rank index) = whole.types.rank index) ∧
        after.types.arrange moved.types =
          (whole.types.arrange container.types).map (renumbering.map .string) :=
    Numbering.ofKeys_of_moved container.types moved.types
      (fun index => typeKey (whole.map .string index)) (renumbering.map .string)
      (fun index => typeKey (after.map .string index)) covers.types numbered.types
      (nodup_of_arrange_map wholeCovers.types (whole.map .string) typeKey (distinct .type))
      (fun index => congrArg typeKey (strings.1 index)) rfl
  -- the key of a renumbered prototype maps its parameters twice, so the key is spelled out here
  have differentProtos :
      (container.protos.toList.map fun proto =>
        (whole.types.rank proto.returnType).toNat ::
          proto.parameters.map fun type => (whole.types.rank type).toNat).Nodup := by
    have keys :=
      nodup_of_arrange_map wholeCovers.protos (Proto.mapRefs whole.map) Proto.key
        (distinct .proto)
    simp only [Proto.key, Proto.mapRefs, List.map_map] at keys
    exact keys
  have protos :
      (∀ index, after.protos.rank (renumbering.protos.rank index) = whole.protos.rank index) ∧
        after.protos.arrange moved.protos =
          (whole.protos.arrange container.protos).map (Proto.mapRefs renumbering.map) :=
    Numbering.ofKeys_of_moved container.protos moved.protos
      (fun proto =>
        (whole.types.rank proto.returnType).toNat ::
          proto.parameters.map fun type => (whole.types.rank type).toNat)
      (Proto.mapRefs renumbering.map)
      (fun proto =>
        (after.types.rank proto.returnType).toNat ::
          proto.parameters.map fun type => (after.types.rank type).toNat)
      covers.protos numbered.protos differentProtos
      (fun proto => by
        simp only [Proto.mapRefs, List.map_map, Function.comp_def, Renumbering.map, types.1]) rfl
  have fields :
      (∀ index, after.fields.rank (renumbering.fields.rank index) = whole.fields.rank index) ∧
        after.fields.arrange moved.fields =
          (whole.fields.arrange container.fields).map (FieldId.mapRefs renumbering.map) :=
    Numbering.ofKeys_of_moved container.fields moved.fields
      (fun id => (id.mapRefs whole.map).key) (FieldId.mapRefs renumbering.map)
      (fun id => (id.mapRefs after.map).key) covers.fields numbered.fields
      (nodup_of_arrange_map wholeCovers.fields (FieldId.mapRefs whole.map) FieldId.key
        (distinct .field))
      (fun id => by simp only [FieldId.key, FieldId.mapRefs, Renumbering.map, types.1, strings.1])
      rfl
  have methods :
      (∀ index, after.methods.rank (renumbering.methods.rank index) = whole.methods.rank index) ∧
        after.methods.arrange moved.methods =
          (whole.methods.arrange container.methods).map (MethodId.mapRefs renumbering.map) :=
    Numbering.ofKeys_of_moved container.methods moved.methods
      (fun id => (id.mapRefs whole.map).key) (MethodId.mapRefs renumbering.map)
      (fun id => (id.mapRefs after.map).key) covers.methods numbered.methods
      (nodup_of_arrange_map wholeCovers.methods (MethodId.mapRefs whole.map) MethodId.key
        (distinct .method))
      (fun id => by
        simp only [MethodId.key, MethodId.mapRefs, Renumbering.map, types.1, strings.1, protos.1])
      rfl
  have map : renumbering.map.andThen after.map = whole.map := by
    funext pool index
    cases pool with
    | string => exact strings.1 index
    | type => exact types.1 index
    | proto => exact protos.1 index
    | field => exact fields.1 index
    | method => exact methods.1 index
    | _ => rfl
  exact ⟨map, strings.2, types.2, protos.2, fields.2, methods.2⟩

/-! ## The same checks and the same image -/

section Completed

variable
  {first second whole : Renumbering} {numbered : Container}
  (completes : first.Completes second whole container)

include completes

/-- A renumbered body fits exactly if the body does. -/
theorem bodyFits_renumbered_iff
    {body : Body}
    (follow : body.OperandsFollow first.map) :
    numbered.BodyFits second.map (body.mapRefs first.map) ↔ numbered.BodyFits whole.map body := by
  have instructions :
      (split (body.mapRefs first.map).code).instructions =
        (split body.code).instructions.map (mapPoolOperands first.map) := by
    rw [Body.mapRefs, split_mapCodeOperands]
  have rest : (split (body.mapRefs first.map).code).rest = (split body.code).rest := by
    rw [Body.mapRefs, split_mapCodeOperands]
  have operands :
      (∀ instruction ∈ (split (body.mapRefs first.map).code).instructions,
          ∀ ref ∈ poolOperands instruction, numbered.Leads (ref.renumber second.map)) ↔
        ∀ instruction ∈ (split body.code).instructions, ∀ ref ∈ poolOperands instruction,
          numbered.Leads (ref.renumber whole.map) := by
    rw [instructions, List.forall_mem_map]
    refine forall₂_congr fun instruction member => ?_
    rw [follow.poolOperands_eq member, List.forall_mem_map, ← completes.map]
    exact Iff.rfl
  have handlers :
      (body.mapRefs first.map).handlers.map (CatchHandler.mapRefs second.map) =
        body.handlers.map (CatchHandler.mapRefs whole.map) := by
    rw [Body.mapRefs, List.map_map, ← completes.map]
    exact List.map_congr_left fun handler _ => handler.mapRefs_mapRefs
  constructor
  · rintro ⟨fit, complete, guards, placed⟩
    exact ⟨operands.mp fit, rest ▸ complete, handlers ▸ guards, handlers ▸ placed⟩
  · rintro ⟨fit, complete, guards, placed⟩
    exact ⟨operands.mpr fit, rest.symm ▸ complete, handlers.symm ▸ guards, handlers.symm ▸ placed⟩

/-- The checks of a renumbered container ask for what those of the container do. -/
theorem checked_renumbered_iff (follow : container.OperandsFollow first.map) :
    (container.renumbered first).Checked numbered second.map ↔
      container.Checked numbered whole.map := by
  have debug :
      (∀ classDef ∈ (container.renumbered first).classes, ∀ method ∈ classDef.allMethods,
          ∀ body ∈ method.body, ∀ debug ∈ body.debug,
            ∀ ref ∈ (debug.mapRefs second.map).refs, numbered.Leads ref) ↔
        ∀ classDef ∈ container.classes, ∀ method ∈ classDef.allMethods, ∀ body ∈ method.body,
          ∀ debug ∈ body.debug, ∀ ref ∈ (debug.mapRefs whole.map).refs, numbered.Leads ref := by
    rw [forall_bodies_renumbered]
    simp only [Body.mapRefs, Option.mem_def, Option.map_eq_some_iff, forall_exists_index, and_imp,
      forall_apply_eq_imp_iff₂, DebugInfo.mapRefs_mapRefs, completes.map]
  have bodies :
      (∀ classDef ∈ (container.renumbered first).classes, ∀ method ∈ classDef.allMethods,
          ∀ body ∈ method.body, numbered.BodyFits second.map body) ↔
        ∀ classDef ∈ container.classes, ∀ method ∈ classDef.allMethods, ∀ body ∈ method.body,
          numbered.BodyFits whole.map body := by
    rw [forall_bodies_renumbered]
    exact forall₂_congr fun classDef isClass => forall₂_congr fun method isMethod =>
      forall₂_congr fun body isBody =>
        bodyFits_renumbered_iff completes (follow classDef isClass method isMethod body isBody)
  constructor
  · intro checked
    exact { checked with debug := debug.mp checked.debug, bodies := bodies.mp checked.bodies }
  · intro checked
    exact { checked with debug := debug.mpr checked.debug, bodies := bodies.mpr checked.bodies }

end Completed

/-- References inside the pools lead to entries after renumbering exactly if they did before. -/
theorem poolRefs_lead_renumbered_iff
    {renumbering : Renumbering}
    (covers : renumbering.Covers container) :
    (∀ ref ∈ (container.renumbered renumbering).poolRefs,
        (container.renumbered renumbering).Leads ref) ↔
      ∀ ref ∈ container.poolRefs, container.Leads ref := by
  have perm := poolRefs_renumbered_perm covers
  constructor
  · intro lead ref refers
    have long := long_of_mem_poolRefs refers
    have leads := lead _ (perm.mem_iff.mpr (List.mem_map_of_mem refers))
    have inside :
        (renumbering.map ref.pool ref.index).toNat <
          (container.renumbered renumbering).poolSize ref.pool :=
      leads.1
    rw [poolSize_renumbered covers, map_lt_poolSize_iff covers] at inside
    exact ⟨inside, by simp [long]⟩
  · intro lead ref refers
    obtain ⟨old, isOld, rfl⟩ := List.mem_map.mp (perm.mem_iff.mp refers)
    exact leads_renumber covers (long_of_mem_poolRefs isOld) (lead old isOld)

/-- How the entries of its pools are numbered does not show in the image of a container: if no two
entries of a pool are the same, the container has an image exactly if it has that image with its
pools in another order and every reference following its entry.  The operands in code must be wide
enough to follow, or the renumbered container could not be stated. -/
theorem encode_renumbered_iff
    {renumbering : Renumbering}
    {image : Bytes}
    (covers : renumbering.Covers container)
    (numbered : container.Numbered)
    (different : ∀ pool, (container.poolKeys pool).Nodup)
    (follow : container.OperandsFollow renumbering.map) :
    container.encode = .ok image ↔ (container.renumbered renumbering).encode = .ok image := by
  have completes := completes_ofContainer covers numbered different
  have same := renumbered_renumbered completes follow
  have sameImage : (container.renumbered renumbering).canonical = container.canonical := by
    rw [canonical, canonical, same]
  rw [encode_eq_ok_iff, encode_eq_ok_iff, poolRefs_lead_renumbered_iff covers, same,
    checked_renumbered_iff completes follow, sameImage]

/-- The unsorted class with a method that reads the first of its fields. -/
def reading : Container :=
  { unsorted with
    protos := #[{ shorty := 1, returnType := 1, parameters := [] }]
    methods := #[{ declaringType := 0, proto := 0, name := 3 }]
    classes :=
      [{ type := 0, access := 1, superclass := none, interfaces := [], sourceFile := none
         annotations := none
         data :=
          some
            { staticFields := [{ field := 0, access := 8 }, { field := 1, access := 8 }]
              instanceFields := []
              directMethods :=
                [{ method := 0, access := 9, body := some (.ofCode 1 [0x0060, 0x0000, 0x000f]) }]
              virtualMethods := [] }
         staticValues := some [.int 1, .int 2] }] }

/-- The strings, types and fields of that class the other way round. -/
def turned : Renumbering where
  strings := { order := [3, 2, 1, 0], ranks := #[3, 2, 1, 0] }
  types := { order := [1, 0], ranks := #[1, 0] }
  protos := { order := [0], ranks := #[0] }
  fields := { order := [1, 0], ranks := #[1, 0] }
  methods := { order := [0], ranks := #[0] }

theorem covers_turned : turned.Covers reading := by
  have covers
      {numbering : Numbering}
      {count : Nat}
      (perm : numbering.order.Perm (List.range count))
      (size : numbering.ranks.size = count)
      (inverse :
        ∀ new < count, numbering.ranks[numbering.order[new]?.getD 0]? = some (UInt32.ofNat new)) :
      numbering.Covers count := by
    refine ⟨perm, size, fun new old isOld => ?_⟩
    have inside : new < numbering.order.length := (List.getElem?_eq_some_iff.mp isOld).1
    rw [perm.length_eq, List.length_range] at inside
    simpa [isOld] using inverse new inside
  constructor <;> exact covers (by decide) (by decide) (by decide)

theorem encode_renumbered_iff_reading :
    (turned.Covers reading ∧ reading.Numbered ∧ (∀ pool, (reading.poolKeys pool).Nodup) ∧
        reading.OperandsFollow turned.map) ∧
      (reading.renumbered turned).encode = .ok reading.canonical.image := by
  have encoded : reading.encode = .ok reading.canonical.image :=
    encode_of_checks (by cbv) (by cbv)
  have numbered : reading.Numbered := by constructor <;> decide
  have different (pool : Pool) : (reading.poolKeys pool).Nodup := by
    cases pool <;> decide +kernel
  have follow : reading.OperandsFollow turned.map := by
    intro classDef isClass method isMethod body isBody
    obtain rfl := List.mem_singleton.mp isClass
    obtain rfl := List.mem_singleton.mp isMethod
    obtain rfl := Option.some.inj isBody
    unfold Body.OperandsFollow
    decide +kernel
  exact ⟨⟨covers_turned, numbered, different, follow⟩,
    (encode_renumbered_iff covers_turned numbered different follow).mp encoded⟩

end Container

end DexPatch
