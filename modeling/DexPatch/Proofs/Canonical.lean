import DexPatch.Proofs.Correspondence
import DexPatch.Proofs.Decoded

namespace DexPatch

/-!
# The canonical form is a fixed point

Pools in canonical order are in the order of their keys, since the numbers
that make up the keys of one pool are those that the pools before it have
given.  So a canonical container keeps all its numbers when it is encoded.
-/

namespace Numbering

variable {α β : Type} (entries : Array α) (key : α → SortKey) (change : α → β)
  (changedKey : β → SortKey)

/-- Entries arranged by their keys have keys in order, also if they are changed on the way and
their keys are made of the changed entries. -/
theorem pairwise_keys_arrange_map (same : ∀ entry, changedKey (change entry) = key entry) :
    (((ofKeys (entries.toList.map key)).arrange (entries.map change)).toList.map
        changedKey).Pairwise fun first second => notBehind first second := by
  have sameKeys : changedKey ∘ change = key := funext same
  rw [Covers.arrange_map, Array.toList_map, List.map_map, sameKeys, List.pairwise_map]
  exact pairwise_arrange

/-- Entries arranged by their keys are not moved again. -/
theorem still_arrange_map
    (same : ∀ entry, changedKey (change entry) = key entry)
    (few : entries.size ≤ 4294967296)
    {arranged : Array β}
    (isArranged : arranged = (ofKeys (entries.toList.map key)).arrange (entries.map change)) :
    (∀ index, (ofKeys (arranged.toList.map changedKey)).rank index = index) ∧
      (ofKeys (arranged.toList.map changedKey)).arrange arranged = arranged := by
  have sorted := pairwise_keys_arrange_map entries key change changedKey same
  rw [← isArranged] at sorted
  have size : arranged.size = entries.size := by
    rw [isArranged, (covers_ofKeys_map entries key).size_arrange_map]
  refine ⟨rank_of_pairwise sorted ?_, arrange_of_pairwise sorted ?_⟩
  · rwa [List.length_map, Array.length_toList, size]
  · rw [List.length_map, Array.length_toList]

end Numbering

namespace Renumbering

/-- A renumbering that moves no entry of a container. -/
structure Still (renumbering : Renumbering) (container : Container) : Prop where
  map : renumbering.map = RefMap.unchanged
  strings : renumbering.strings.arrange container.strings = container.strings
  types : renumbering.types.arrange container.types = container.types
  protos : renumbering.protos.arrange container.protos = container.protos
  fields : renumbering.fields.arrange container.fields = container.fields
  methods : renumbering.methods.arrange container.methods = container.methods

/-- A container whose entries stay where they are stays as it is. -/
theorem Still.renumbered_eq
    {renumbering : Renumbering}
    {container : Container}
    (still : renumbering.Still container) :
    container.renumbered renumbering = container := by
  rw [Container.renumbered, still.map, Container.mapRefs_unchanged, Container.permutePools,
    still.strings, still.types, still.protos, still.fields, still.methods]

/-- The canonical order of a renumbered container is the order that it has. -/
theorem still_renumbered
    {container : Container}
    (numbered : container.Numbered) :
    (ofContainer (container.renumbered (ofContainer container))).Still
      (container.renumbered (ofContainer container)) := by
  let before := ofContainer container
  let moved := container.renumbered before
  let after := ofContainer moved
  have strings :
      (∀ index, after.strings.rank index = index) ∧
        after.strings.arrange moved.strings = moved.strings :=
    Numbering.still_arrange_map container.strings stringKey id stringKey (fun _ => rfl)
      numbered.strings (by rw [Array.map_id]; rfl)
  have types :
      (∀ index, after.types.rank index = index) ∧
        after.types.arrange moved.types = moved.types :=
    Numbering.still_arrange_map container.types
      (fun index => [(before.strings.rank index).toNat]) (before.map .string)
      (fun index => [(after.strings.rank index).toNat])
      (fun index => by simp only [strings.1]; rfl) numbered.types rfl
  have protos :
      (∀ index, after.protos.rank index = index) ∧
        after.protos.arrange moved.protos = moved.protos :=
    Numbering.still_arrange_map container.protos
      (fun proto =>
        (before.types.rank proto.returnType).toNat ::
          proto.parameters.map fun type => (before.types.rank type).toNat)
      (Proto.mapRefs before.map)
      (fun proto =>
        (after.types.rank proto.returnType).toNat ::
          proto.parameters.map fun type => (after.types.rank type).toNat)
      (fun proto => by
        simp only [types.1, Proto.mapRefs, List.map_map]
        rfl) numbered.protos rfl
  have fields :
      (∀ index, after.fields.rank index = index) ∧
        after.fields.arrange moved.fields = moved.fields :=
    Numbering.still_arrange_map container.fields
      (fun id =>
        [(before.types.rank id.declaringType).toNat, (before.strings.rank id.name).toNat,
          (before.types.rank id.type).toNat])
      (FieldId.mapRefs before.map)
      (fun id =>
        [(after.types.rank id.declaringType).toNat, (after.strings.rank id.name).toNat,
          (after.types.rank id.type).toNat])
      (fun id => by simp only [types.1, strings.1]; rfl) numbered.fields rfl
  have methods :
      (∀ index, after.methods.rank index = index) ∧
        after.methods.arrange moved.methods = moved.methods :=
    Numbering.still_arrange_map container.methods
      (fun id =>
        [(before.types.rank id.declaringType).toNat, (before.strings.rank id.name).toNat,
          (before.protos.rank id.proto).toNat])
      (MethodId.mapRefs before.map)
      (fun id =>
        [(after.types.rank id.declaringType).toNat, (after.strings.rank id.name).toNat,
          (after.protos.rank id.proto).toNat])
      (fun id => by simp only [types.1, strings.1, protos.1]; rfl) numbered.methods rfl
  refine ⟨funext fun pool => funext fun index => ?_, strings.2, types.2, protos.2, fields.2,
    methods.2⟩
  cases pool with
  | string => exact strings.1 index
  | type => exact types.1 index
  | proto => exact protos.1 index
  | field => exact fields.1 index
  | method => exact methods.1 index
  | _ => rfl

end Renumbering

namespace Container

variable {container : Container}

/-- The canonical order of a canonical form is the order that it has: arranging the lists inside
its classes moves no entry of a pool. -/
theorem still_canonical (numbered : container.Numbered) :
    (Renumbering.ofContainer container.canonical).Still container.canonical :=
  have still := Renumbering.still_renumbered numbered
  ⟨still.map, still.strings, still.types, still.protos, still.fields, still.methods⟩

/-- The canonical form of a canonical form is that form. -/
theorem canonical_canonical (numbered : container.Numbered) :
    container.canonical.canonical = container.canonical := by
  rw [canonical, (still_canonical numbered).renumbered_eq, canonical, arranged_arranged]

/-- A canonical form that is written as it is is encoded as it is. -/
theorem encode_canonical
    (numbered : container.Numbered)
    (representable : container.canonical.Representable) :
    container.canonical.encode = .ok container.canonical.image := by
  have still := still_canonical numbered
  refine encode_eq_ok_iff.mpr ⟨representable.pools, ?_, ?_⟩
  · rw [still.renumbered_eq, still.map]
    exact representable.toChecked
  · rw [canonical_canonical numbered]

/-- The image of what was read from an image is read back as something with that same image, even
if the pools of the first image are unsorted or hold an entry twice.  An empty hidden-API section
has no length of its own to be read back by. -/
theorem encode_decode_fixed_point
    {image first : Bytes}
    (decoded : decode image = .ok container)
    (hiddenApi : container.hiddenApi ≠ some #[])
    (encoded : container.encode = .ok first)
    (fits : first.size < 4294967296) :
    ∃ again, decode first = .ok again ∧ again.encode = .ok first := by
  obtain ⟨shaped, -, headed⟩ := decode_spec decoded
  have shapedHiddenApi : ∀ blob ∈ container.hiddenApi, ShapedHiddenApi blob := by
    intro blob isBlob
    refine ⟨Array.size_pos_iff.mpr ?_, headed blob isBlob⟩
    rintro rfl
    exact hiddenApi isBlob
  obtain ⟨rfl, representable⟩ := representable_of_encode encoded
  exact ⟨container.canonical, decode_of_encode encoded fits shaped shapedHiddenApi,
    encode_canonical (numbered_of_image fits) representable⟩

theorem readable_unsorted : unsorted.Readable := by
  decide +kernel

theorem size_image_unsorted : unsorted.image.size < 4294967296 :=
  size_image_lt (by cbv)

/-- The image of the unsorted container as it stands is not the one it is written as, and that
one is a fixed point. -/
theorem encode_decode_fixed_point_unsorted :
    decode unsorted.image = .ok unsorted ∧
      ∃ again,
        decode unsorted.canonical.image = .ok again ∧
          again.encode = .ok unsorted.canonical.image :=
  have decoded := decode_image readable_unsorted (by simp [unsorted, empty]) size_image_unsorted
  ⟨decoded,
    encode_decode_fixed_point decoded (by simp [unsorted, empty]) encode_unsorted size_unsorted⟩

end Container

end DexPatch
