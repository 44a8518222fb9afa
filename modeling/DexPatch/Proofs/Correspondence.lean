import DexPatch.Proofs.Encoding
import DexPatch.Proofs.Reordered

namespace DexPatch

/-!
# Reading back what was encoded

What is read from the image of a container is that container with its pools
permuted, every reference following the entry it named, and the lists of
members and annotations in another order.
-/

/-- The pool operands of a body's instructions get their new numbers in full: none is cut off by
the 16 bits that most of them are stored in. -/
def Body.OperandsFollow (renumber : RefMap) (body : Body) : Prop :=
  (split (body.mapRefs renumber).code).instructions.map poolOperands =
    (split body.code).instructions.map fun instruction =>
      (poolOperands instruction).map (Reference.renumber renumber)

namespace Container

/-- Every entry of the first container stands in the second one at its new number, with its own
references renumbered in the same way. -/
structure Follows (renumber : RefMap) (before after : Container) : Prop where
  strings :
    ∀ index string, before.strings[index.toNat]? = some string →
      after.strings[(renumber .string index).toNat]? = some string
  types :
    ∀ index string, before.types[index.toNat]? = some string →
      after.types[(renumber .type index).toNat]? = some (renumber .string string)
  protos :
    ∀ index proto, before.protos[index.toNat]? = some proto →
      after.protos[(renumber .proto index).toNat]? = some (proto.mapRefs renumber)
  fields :
    ∀ index id, before.fields[index.toNat]? = some id →
      after.fields[(renumber .field index).toNat]? = some (id.mapRefs renumber)
  methods :
    ∀ index id, before.methods[index.toNat]? = some id →
      after.methods[(renumber .method index).toNat]? = some (id.mapRefs renumber)

/-- Two containers that say the same: the pools of the second are those of the first, permuted,
every reference names the entry that it named before, and members and annotations are reordered.
Call sites and method handles keep their places. -/
structure Permuted (renumber : RefMap) (before after : Container) : Prop extends
    Follows renumber before after where
  /-- The pools are as large as before, and all their entries have numbers. -/
  sizes :
    ∀ pool, after.poolSize pool = before.poolSize pool ∧
      (pool ∈ [Pool.string, .type, .proto, .field, .method] → before.poolSize pool ≤ 4294967296)
  injective : ∀ pool, Function.Injective (renumber pool)
  kept : ∀ index, renumber .callSite index = index ∧ renumber .methodHandle index = index
  version : after.version = before.version
  hiddenApi : after.hiddenApi = before.hiddenApi
  classes :
    List.Forall₂ (fun old new => (old.mapRefs renumber).Reordered new) before.classes
      after.classes
  callSites :
    List.Forall₂
      (fun old new => List.Forall₂ Value.Reordered (Value.mapRefsItems renumber old) new)
      before.callSites after.callSites
  methodHandles : after.methodHandles = before.methodHandles.map (MethodHandle.mapRefs renumber)
  operands :
    ∀ classDef ∈ before.classes, ∀ method ∈ classDef.allMethods, ∀ body ∈ method.body,
      body.OperandsFollow renumber

variable {container : Container} {renumbering : Renumbering}

/-- Entries are found at their ranks. -/
theorem follows_renumbered
    (covers : renumbering.Covers container)
    (numbered : container.Numbered) :
    container.Follows renumbering.map (container.renumbered renumbering) where
  strings := fun index string found =>
    (covers.strings.getElem?_arrange_rank numbered.strings index).trans found
  types := fun index string found =>
    (covers.types.getElem?_arrange_map_rank numbered.types _ index).trans (by rw [found]; rfl)
  protos := fun index proto found =>
    (covers.protos.getElem?_arrange_map_rank numbered.protos _ index).trans (by rw [found]; rfl)
  fields := fun index id found =>
    (covers.fields.getElem?_arrange_map_rank numbered.fields _ index).trans (by rw [found]; rfl)
  methods := fun index id found =>
    (covers.methods.getElem?_arrange_map_rank numbered.methods _ index).trans (by rw [found]; rfl)

/-- Operands that are checked with their new numbers get these in full. -/
theorem BodyFits.operandsFollow
    {renumber : RefMap}
    {body : Body}
    (fits : container.BodyFits renumber body) :
    body.OperandsFollow renumber := by
  rw [Body.OperandsFollow, Body.mapRefs, split_mapCodeOperands, List.map_map]
  refine List.map_congr_left fun instruction member => ?_
  exact poolOperands_mapPoolOperands renumber fun ref isOperand =>
    (fits.operands instruction member ref isOperand).2

/-- The canonical form of a container that passes the checks says the same. -/
theorem permuted_canonical
    (numbered : container.Numbered)
    (checked :
      container.Checked (container.renumbered (Renumbering.ofContainer container))
        (Renumbering.ofContainer container).map) :
    container.Permuted (Renumbering.ofContainer container).map container.canonical := by
  have covers := Renumbering.covers_ofContainer container
  have follows := follows_renumbered covers numbered
  exact
    { strings := follows.strings, types := follows.types, protos := follows.protos
      fields := follows.fields, methods := follows.methods
      sizes := by
        intro pool
        refine ⟨container.poolSize_canonical pool, fun member => ?_⟩
        cases pool with
        | string => exact numbered.strings
        | type => exact numbered.types
        | proto => exact numbered.protos
        | field => exact numbered.fields
        | method => exact numbered.methods
        | _ => simp at member
      injective := map_injective covers numbered
      kept := fun _ => ⟨rfl, rfl⟩
      version := rfl
      hiddenApi := rfl
      classes := by
        show List.Forall₂ _ _ ((container.classes.map _).map ClassDef.arranged)
        rw [List.map_map, List.forall₂_map_right_iff]
        exact List.forall₂_same.mpr fun classDef _ => ClassDef.reordered_arranged _
      callSites := by
        show List.Forall₂ _ _ ((container.callSites.map _).map Value.arrangedItems)
        rw [List.map_map, List.forall₂_map_right_iff]
        exact List.forall₂_same.mpr fun callSite _ => Value.forall₂_reordered_arranged _
      methodHandles := rfl
      operands := fun classDef isClass method isMethod body isBody =>
        (checked.bodies classDef isClass method isMethod body isBody).operandsFollow }

/-! ## A container that is not in canonical order -/

/-- A class whose two static fields are listed against the canonical order, with the initial
values one and two. -/
def unsorted : Container :=
  { empty with
    strings :=
      #[{ data := [0x4c, 0x43, 0x3b], utf16Length := 3 }, { data := [0x49], utf16Length := 1 },
        { data := [0x79], utf16Length := 1 }, { data := [0x78], utf16Length := 1 }]
    types := #[0, 1]
    fields :=
      #[{ declaringType := 0, type := 1, name := 2 }, { declaringType := 0, type := 1, name := 3 }]
    classes :=
      [{ type := 0, access := 1, superclass := none, interfaces := [], sourceFile := none
         annotations := none
         data :=
          some
            { staticFields := [{ field := 0, access := 8 }, { field := 1, access := 8 }]
              instanceFields := [], directMethods := [], virtualMethods := [] }
         staticValues := some [.int 1, .int 2] }] }

theorem shaped_unsorted : unsorted.Shaped := by
  decide +kernel

theorem encode_unsorted : unsorted.encode = .ok unsorted.canonical.image :=
  encode_of_checks (by cbv) (by cbv)

theorem size_unsorted : unsorted.canonical.image.size < 4294967296 :=
  size_image_lt (by cbv)

/-! ## Images read back -/

/-- What is read from the image of a shaped container is that container with its pools permuted,
every reference following its entry and leading to it, and its lists reordered. -/
theorem decode_encode_permuted
    {image : Bytes}
    (encoded : container.encode = .ok image)
    (fits : image.size < 4294967296)
    (shaped : container.Shaped)
    (hiddenApi : ∀ blob ∈ container.hiddenApi, ShapedHiddenApi blob) :
    ∃ result renumber,
      decode image = .ok result ∧ container.Permuted renumber result ∧ result.Representable := by
  have decoded := decode_of_encode encoded fits shaped hiddenApi
  obtain ⟨-, representable⟩ := representable_of_encode encoded
  obtain ⟨-, checked, rfl⟩ := encode_eq_ok_iff.mp encoded
  exact ⟨container.canonical, _, decoded, permuted_canonical (numbered_of_image fits) checked,
    representable⟩

/-- The unsorted container is read back with its pools permuted. -/
theorem decode_encode_permuted_unsorted :
    unsorted.encode = .ok unsorted.canonical.image ∧
      ∃ result renumber,
        decode unsorted.canonical.image = .ok result ∧
          unsorted.Permuted renumber result ∧ result.Representable :=
  ⟨encode_unsorted,
    decode_encode_permuted encode_unsorted size_unsorted shaped_unsorted (by simp [unsorted, empty])⟩

end Container

end DexPatch
