import Mathlib.Data.List.Nodup
import DexPatch.Proofs.Canonical
import DexPatch.Proofs.Entries

namespace DexPatch

/-!
# Initial values of static fields

The initial value at a place of a class is that of the static field at the
same place.  Encoding puts the fields in order and leaves the values where
they are, so the pairs survive exactly if each field finds a value of its own
meaning at the place that it is moved to.
-/

namespace ClassDef

/-- The static fields of a class. -/
def staticFields (classDef : ClassDef) : List MemberField :=
  (classDef.data.map (·.staticFields)).getD []

/-- The initial values of the first static fields. -/
def initialValues (classDef : ClassDef) : List Value :=
  classDef.staticValues.getD []

/-- The place of a static field once they are ordered by new number. -/
def placeOf (renumber : RefMap) (classDef : ClassDef) (field : UInt32) : Nat :=
  classDef.staticFields.countP fun other => renumber .field other.field < renumber .field field

end ClassDef

namespace Container

/-- Every static field with an initial value has the same value, references resolved, in the class
at the same place of another container. -/
def KeepsInitialValues (before after : Container) : Prop :=
  ∀ (i : Nat) (old new : ClassDef),
    before.classes[i]? = some old → after.classes[i]? = some new →
      ∀ (k : Nat) (field : MemberField) (value : Value),
        old.staticFields[k]? = some field → old.initialValues[k]? = some value →
          ∃ (place : Nat) (newField : MemberField) (newValue : Value),
            new.staticFields[place]? = some newField ∧
              SameEntry before after .field field.field newField.field ∧
                new.initialValues[place]? = some newValue ∧
                  SameValue before after value newValue

/-- Every static field with an initial value finds one of the same meaning at the place that it
has in canonical order. -/
def ValuesFitOrder (container : Container) : Prop :=
  ∀ classDef ∈ container.classes,
    ∀ (k : Nat) (field : MemberField) (value : Value),
      classDef.staticFields[k]? = some field → classDef.initialValues[k]? = some value →
        ∃ other,
          classDef.initialValues[
              classDef.placeOf (Renumbering.ofContainer container).map field.field]? = some other ∧
            SameValue container container value other

/-- No pool has an entry twice. -/
structure DuplicateFree (container : Container) : Prop where
  strings : container.strings.toList.Nodup
  types : container.types.toList.Nodup
  protos : container.protos.toList.Nodup
  fields : container.fields.toList.Nodup
  methods : container.methods.toList.Nodup

end Container

/-! ## Places in a sorted list -/

/-- A sorted list is strictly ascending if no key occurs twice. -/
theorem pairwise_lt_sortOn
    {α : Type}
    {key : α → UInt32}
    {list : List α}
    (distinct : (list.map key).Nodup) :
    (sortOn key list).Pairwise fun first second => key first < key second := by
  have distinctSorted : ((sortOn key list).map key).Nodup :=
    ((sortOn_perm key list).map key).nodup_iff.mpr distinct
  refine ((pairwise_sortOn key list).and (List.pairwise_map.mp distinctSorted)).imp ?_
  rintro first second ⟨inOrder, different⟩
  exact UInt32.lt_of_le_of_ne inOrder different

/-- An element of a sorted list stands behind those with smaller keys, if no key occurs twice. -/
theorem getElem?_sortOn_countP
    {α : Type}
    {key : α → UInt32}
    {list : List α}
    (distinct : (list.map key).Nodup)
    {x : α}
    (member : x ∈ list) :
    (sortOn key list)[list.countP fun y => key y < key x]? = some x := by
  obtain ⟨before, after, shape⟩ :=
    List.append_of_mem (Value.mem_sortOn.mpr member : x ∈ sortOn key list)
  have ascending := pairwise_lt_sortOn distinct
  rw [shape, List.pairwise_append, List.pairwise_cons] at ascending
  obtain ⟨-, ⟨behind, -⟩, inFront⟩ := ascending
  have allBefore : before.countP (fun y => key y < key x) = before.length :=
    List.countP_eq_length.mpr fun y isBefore =>
      decide_eq_true (inFront y isBefore x List.mem_cons_self)
  have noneAfter : after.countP (fun y => key y < key x) = 0 :=
    List.countP_eq_zero.mpr fun y isAfter smaller =>
      UInt32.lt_asymm (behind y isAfter) (of_decide_eq_true smaller)
  have count : list.countP (fun y => key y < key x) = before.length := by
    rw [← (sortOn_perm key list).countP_eq, shape, List.countP_append, List.countP_cons, allBefore,
      noneAfter]
    simp
  rw [count, shape, List.getElem?_append_right (Nat.le_refl _), Nat.sub_self]
  rfl

/-! ## Fields with one meaning -/

namespace Container

variable {container : Container}

/-- Entries that all differ have one number each. -/
theorem eq_of_getElem?_of_nodup
    {α : Type}
    {entries : Array α}
    (different : entries.toList.Nodup)
    {first second : UInt32}
    {entry : α}
    (isFirst : entries[first.toNat]? = some entry)
    (isSecond : entries[second.toNat]? = some entry) :
    first = second := by
  have inside : first.toNat < entries.toList.length := by
    simpa using (Array.getElem?_eq_some_iff.mp isFirst).1
  have same : entries.toList[first.toNat]? = entries.toList[second.toNat]? := by
    rw [Array.getElem?_toList, Array.getElem?_toList, isFirst, isSecond]
  exact UInt32.toNat_inj.mp ((List.getElem?_inj inside different).mp same)

namespace DuplicateFree

variable (different : container.DuplicateFree)

include different

theorem eq_of_string?
    {first second : UInt32}
    {string : PoolString}
    (isFirst : container.string? first = some string)
    (isSecond : container.string? second = some string) :
    first = second :=
  eq_of_getElem?_of_nodup different.strings isFirst isSecond

theorem eq_of_type?
    {first second : UInt32}
    {descriptor : PoolString}
    (isFirst : container.type? first = some descriptor)
    (isSecond : container.type? second = some descriptor) :
    first = second := by
  obtain ⟨string, isString, reads⟩ := Option.bind_eq_some_iff.mp isFirst
  obtain ⟨other, isOther, readsToo⟩ := Option.bind_eq_some_iff.mp isSecond
  obtain rfl := different.eq_of_string? reads readsToo
  exact eq_of_getElem?_of_nodup different.types isString isOther

/-- In pools without repetitions a field has one number only. -/
theorem eq_of_field?
    {first second : UInt32}
    {entry : PoolEntry}
    (isFirst : container.field? first = some entry)
    (isSecond : container.field? second = some entry) :
    first = second := by
  obtain ⟨id, isId, parts⟩ := Option.bind_eq_some_iff.mp isFirst
  obtain ⟨otherId, isOtherId, otherParts⟩ := Option.bind_eq_some_iff.mp isSecond
  obtain ⟨declaringType, isDeclaring, parts⟩ := Option.bind_eq_some_iff.mp parts
  obtain ⟨type, isType, parts⟩ := Option.bind_eq_some_iff.mp parts
  obtain ⟨name, isName, made⟩ := Option.bind_eq_some_iff.mp parts
  obtain ⟨otherDeclaring, isOtherDeclaring, otherParts⟩ := Option.bind_eq_some_iff.mp otherParts
  obtain ⟨otherType, isOtherType, otherParts⟩ := Option.bind_eq_some_iff.mp otherParts
  obtain ⟨otherName, isOtherName, otherMade⟩ := Option.bind_eq_some_iff.mp otherParts
  have same : PoolEntry.field declaringType type name =
      .field otherDeclaring otherType otherName :=
    Option.some.inj (made.trans otherMade.symm)
  obtain ⟨rfl, rfl, rfl⟩ := PoolEntry.field.inj same
  have sameId : id = otherId := by
    obtain ⟨_, _, _⟩ := id
    obtain ⟨_, _, _⟩ := otherId
    rw [FieldId.mk.injEq]
    exact ⟨different.eq_of_type? isDeclaring isOtherDeclaring,
      different.eq_of_type? isType isOtherType, different.eq_of_string? isName isOtherName⟩
  subst sameId
  exact eq_of_getElem?_of_nodup different.fields isId isOtherId

end DuplicateFree

/-! ## The canonical form -/

theorem staticFields_canonical
    {classDef : ClassDef}
    (renumber : RefMap) :
    (classDef.mapRefs renumber).arranged.staticFields =
      sortOn MemberField.field (classDef.staticFields.map (MemberField.mapRefs renumber)) := by
  cases isData : classDef.data with
  | none =>
      simp [ClassDef.staticFields, ClassDef.arranged, ClassDef.mapRefs, isData, sortOn]
  | some data =>
      simp [ClassDef.staticFields, ClassDef.arranged, ClassDef.mapRefs, isData,
        ClassData.arranged, ClassData.mapRefs]

theorem initialValues_canonical
    {classDef : ClassDef}
    (renumber : RefMap) :
    (classDef.mapRefs renumber).arranged.initialValues =
      classDef.initialValues.map fun value => (value.mapRefs renumber).arranged := by
  cases values : classDef.staticValues <;>
    simp [ClassDef.initialValues, ClassDef.arranged, ClassDef.mapRefs, values,
      Value.arrangedItems_eq, Value.mapRefsItems_eq]

/-- In the canonical form a field stands at its place. -/
theorem getElem?_staticFields_canonical
    {renumber : RefMap}
    (injective : Function.Injective (renumber .field))
    {classDef : ClassDef}
    (once : (classDef.staticFields.map (·.field)).Nodup)
    {field : MemberField}
    (member : field ∈ classDef.staticFields) :
    (classDef.mapRefs renumber).arranged.staticFields[
        classDef.placeOf renumber field.field]? = some (field.mapRefs renumber) := by
  have distinct :
      ((classDef.staticFields.map (MemberField.mapRefs renumber)).map (·.field)).Nodup := by
    rw [List.map_map]
    have numbers := List.Nodup.map injective once
    rwa [List.map_map] at numbers
  have found := getElem?_sortOn_countP distinct (List.mem_map_of_mem member)
  rw [List.countP_map] at found
  rw [staticFields_canonical]
  exact found

theorem getElem?_classes_canonical (i : Nat) :
    container.canonical.classes[i]? =
      container.classes[i]?.map fun classDef =>
        (classDef.mapRefs (Renumbering.ofContainer container).map).arranged := by
  rw [classes_canonical, List.getElem?_map]

/-- In the canonical form of a container without repetitions, the field that means the same as a
static field of a class is the one at its place. -/
theorem place_eq_of_sameEntry
    (numbered : container.Numbered)
    (different : container.DuplicateFree)
    {classDef : ClassDef}
    (once : (classDef.staticFields.map (·.field)).Nodup)
    {field newField : MemberField}
    (member : field ∈ classDef.staticFields)
    {place : Nat}
    (found :
      (classDef.mapRefs
          (Renumbering.ofContainer container).map).arranged.staticFields[place]? = some newField)
    (same : SameEntry container container.canonical .field field.field newField.field) :
    place = classDef.placeOf (Renumbering.ofContainer container).map field.field := by
  have injective :=
    map_injective (Renumbering.covers_ofContainer container) numbered .field
  have atPlace := getElem?_staticFields_canonical injective once member
  rw [staticFields_canonical] at found atPlace
  obtain ⟨old, isOld, rfl⟩ := List.mem_map.mp (Value.mem_sortOn.mp (List.mem_of_getElem? found))
  obtain ⟨entry, isEntry, isEntryAfter⟩ := same
  have sameField : old.field = field.field :=
    different.eq_of_field? ((meaning?_canonical numbered .field old.field).symm.trans isEntryAfter)
      isEntry
  have distinct :
      ((sortOn MemberField.field (classDef.staticFields.map (MemberField.mapRefs
        (Renumbering.ofContainer container).map))).map MemberField.field).Nodup := by
    rw [((sortOn_perm _ _).map MemberField.field).nodup_iff, List.map_map]
    have numbers := List.Nodup.map injective once
    rwa [List.map_map] at numbers
  refine (List.getElem?_inj ?_ distinct).mp ?_
  · rw [List.length_map]
    exact (List.getElem?_eq_some_iff.mp found).1
  · rw [List.getElem?_map, List.getElem?_map, found, atPlace]
    simp [MemberField.mapRefs, sameField]

/-- The canonical form keeps the initial values exactly if the values fit the canonical order. -/
theorem keepsInitialValues_canonical_iff
    (numbered : container.Numbered)
    (different : container.DuplicateFree)
    (once : ∀ classDef ∈ container.classes, (classDef.staticFields.map (·.field)).Nodup)
    (resolved :
      ∀ classDef ∈ container.classes, ∀ field ∈ classDef.staticFields,
        ∃ entry, container.meaning? .field field.field = some entry) :
    container.KeepsInitialValues container.canonical ↔ container.ValuesFitOrder := by
  have injective :=
    map_injective (Renumbering.covers_ofContainer container) numbered .field
  constructor
  · intro keeps classDef isClass k field value isField isValue
    obtain ⟨i, isClassAt⟩ := List.mem_iff_getElem?.mp isClass
    obtain ⟨place, newField, newValue, isNewField, sameField, isNewValue, sameValue⟩ :=
      keeps i classDef _ isClassAt (by rw [getElem?_classes_canonical, isClassAt]; rfl) k field
        value isField isValue
    have isPlace :=
      place_eq_of_sameEntry numbered different (once classDef isClass)
        (List.mem_of_getElem? isField) isNewField sameField
    rw [isPlace, initialValues_canonical, List.getElem?_map] at isNewValue
    obtain ⟨other, isOther, rfl⟩ := Option.map_eq_some_iff.mp isNewValue
    exact ⟨other, isOther, (sameValue_canonical_iff numbered).mp sameValue⟩
  · intro fits i old new isOld isNew k field value isField isValue
    have isClass := List.mem_of_getElem? isOld
    rw [getElem?_classes_canonical, isOld, Option.map_some, Option.some.injEq] at isNew
    subst isNew
    obtain ⟨other, isOther, sameValue⟩ := fits old isClass k field value isField isValue
    have member := List.mem_of_getElem? isField
    obtain ⟨entry, isEntry⟩ := resolved old isClass field member
    refine ⟨_, _, _, getElem?_staticFields_canonical injective (once old isClass) member, ?_, ?_,
      (sameValue_canonical_iff numbered).mpr sameValue⟩
    · exact ⟨entry, isEntry, (meaning?_canonical numbered .field field.field).trans isEntry⟩
    · rw [initialValues_canonical, List.getElem?_map, isOther]
      rfl

/-- The fields of an encoded container all mean something. -/
theorem exists_meaning?_of_encode
    {image : Bytes}
    (encoded : container.encode = .ok image)
    {classDef : ClassDef}
    (isClass : classDef ∈ container.classes)
    {field : MemberField}
    (isField : field ∈ classDef.staticFields) :
    ∃ entry, container.meaning? .field field.field = some entry := by
  obtain ⟨pools, checked, -⟩ := encode_eq_ok_iff.mp encoded
  have covers := Renumbering.covers_ofContainer container
  cases isData : classDef.data with
  | none =>
      simp [ClassDef.staticFields, isData] at isField
  | some data =>
      simp only [ClassDef.staticFields, isData, Option.map_some, Option.getD_some] at isField
      have leads :=
        checked.members (classDef.mapRefs (Renumbering.ofContainer container).map)
          (List.mem_map_of_mem isClass)
          (data.mapRefs (Renumbering.ofContainer container).map)
          (by simp [ClassDef.mapRefs, isData])
          (.long .field ((Renumbering.ofContainer container).map .field field.field))
          (by
            simp only [ClassData.memberRefs, ClassData.mapRefs, List.mem_append, List.mem_map]
            exact .inl ⟨_, .inl ⟨field, isField, rfl⟩, rfl⟩)
      have inside := leads.1
      simp only [Reference.long, poolSize_renumbered covers] at inside
      exact exists_field? pools ((map_lt_poolSize_iff covers .field _).mp inside)

/-- What is read from the image of a shaped container without repetitions keeps the initial values
of static fields exactly if the values fit the canonical order of the fields. -/
theorem keepsInitialValues_iff
    {image : Bytes}
    {result : Container}
    (encoded : container.encode = .ok image)
    (decoded : decode image = .ok result)
    (fits : image.size < 4294967296)
    (shaped : container.Shaped)
    (hiddenApi : ∀ blob ∈ container.hiddenApi, ShapedHiddenApi blob)
    (different : container.DuplicateFree)
    (once : ∀ classDef ∈ container.classes, (classDef.staticFields.map (·.field)).Nodup) :
    container.KeepsInitialValues result ↔ container.ValuesFitOrder := by
  have canonical := decode_of_encode encoded fits shaped hiddenApi
  obtain rfl : container.canonical = result := Except.ok.inj (canonical.symm.trans decoded)
  obtain ⟨-, -, rfl⟩ := encode_eq_ok_iff.mp encoded
  have numbered := numbered_of_image fits
  exact keepsInitialValues_canonical_iff numbered different once fun classDef isClass field isField =>
    exists_meaning?_of_encode encoded isClass isField

/-! ### Fields listed against the canonical order -/

theorem duplicateFree_unsorted : unsorted.DuplicateFree :=
  ⟨by decide, by decide, by decide, by decide, by decide⟩

theorem once_unsorted :
    ∀ classDef ∈ unsorted.classes, (classDef.staticFields.map (·.field)).Nodup := by
  decide

theorem decode_canonical_unsorted :
    decode unsorted.canonical.image = .ok unsorted.canonical :=
  decode_of_encode encode_unsorted size_unsorted shaped_unsorted (by simp [unsorted, empty])

theorem not_valuesFitOrder_unsorted : ¬ unsorted.ValuesFitOrder := by
  intro fits
  have place :
      unsorted.classes[0].placeOf (Renumbering.ofContainer unsorted).map 0 = 1 := by
    cbv
  obtain ⟨other, isOther, renumber, -, reordered⟩ :=
    fits unsorted.classes[0] (List.getElem_mem _) 0 { field := 0, access := 8 } (.int 1) rfl rfl
  rw [place] at isOther
  obtain rfl : Value.int 2 = other := Option.some.inj isOther
  have same : Value.int 1 = .int 2 := reordered.eq_of_plain.1 trivial
  exact absurd (Value.int.inj same) (by decide)

/-- The condition is about the unsorted container too. -/
theorem keepsInitialValues_iff_unsorted :
    unsorted.KeepsInitialValues unsorted.canonical ↔ unsorted.ValuesFitOrder :=
  keepsInitialValues_iff encode_unsorted decode_canonical_unsorted size_unsorted shaped_unsorted
    (by simp [unsorted, empty]) duplicateFree_unsorted once_unsorted

/-- In the unsorted container, encoding and decoding exchange the initial values of two fields. -/
theorem not_keepsInitialValues_unsorted :
    unsorted.DuplicateFree ∧
      (∀ classDef ∈ unsorted.classes, (classDef.staticFields.map (·.field)).Nodup) ∧
        ∃ image result,
          unsorted.encode = .ok image ∧ decode image = .ok result ∧
            ¬ unsorted.KeepsInitialValues result := by
  refine ⟨duplicateFree_unsorted, once_unsorted, _, _, encode_unsorted, decode_canonical_unsorted,
    fun keeps => not_valuesFitOrder_unsorted ?_⟩
  have numbered := numbered_of_image size_unsorted
  refine (keepsInitialValues_canonical_iff numbered duplicateFree_unsorted once_unsorted ?_).mp keeps
  exact fun classDef isClass field isField =>
    exists_meaning?_of_encode encode_unsorted isClass isField

end Container

end DexPatch
