import DexPatch.Proofs.Patched

namespace DexPatch

/-!
# Images are in canonical order

What is read from an image that was written has its pools in the order of their
keys, and all its member lists and annotations in the order of the numbers they
are listed under.
-/

/-! ## Keys -/

/-- Keys are compared as lists of numbers are. -/
theorem notBehind_iff_le {first second : SortKey} :
    notBehind first second = true ↔ first ≤ second := by
  rw [← not_lt]
  induction first generalizing second with
  | nil =>
      exact iff_of_true rfl (List.not_lt_nil second)
  | cons x xs inductionHypothesis =>
      cases second with
      | nil =>
          exact iff_of_false nofun (not_not.mpr (List.nil_lt_cons x xs))
      | cons y ys =>
          have less : y :: ys < x :: xs ↔ y < x ∨ y = x ∧ ys < xs := List.cons_lt_cons_iff
          simp only [notBehind, Bool.or_eq_true, decide_eq_true_eq, Bool.and_eq_true, beq_iff_eq,
            inductionHypothesis, less]
          rcases Nat.lt_trichotomy x y with smaller | rfl | greater
          · simp [smaller, Nat.lt_asymm smaller, Nat.ne_of_gt smaller]
          · simp
          · simp [greater, Nat.lt_asymm greater, Nat.ne_of_gt greater]

/-- The key of a type: the number of its string. -/
def typeKey (string : UInt32) : SortKey := [string.toNat]

/-- The key of a prototype: the numbers of its return type and its parameters. -/
def Proto.key (proto : Proto) : SortKey :=
  proto.returnType.toNat :: proto.parameters.map (·.toNat)

/-- The key of a field: the numbers of its class, its name and its type. -/
def FieldId.key (id : FieldId) : SortKey :=
  [id.declaringType.toNat, id.name.toNat, id.type.toNat]

/-- The key of a method: the numbers of its class, its name and its prototype. -/
def MethodId.key (id : MethodId) : SortKey :=
  [id.declaringType.toNat, id.name.toNat, id.proto.toNat]

namespace Container

/-- The keys of the entries of a pool. -/
def poolKeys (container : Container) : Pool → List SortKey
  | .string => container.strings.toList.map Renumbering.stringKey
  | .type => container.types.toList.map typeKey
  | .proto => container.protos.toList.map Proto.key
  | .field => container.fields.toList.map FieldId.key
  | .method => container.methods.toList.map MethodId.key
  | _ => []

variable {container : Container}

/-- The pools of a container in canonical order are in the order of their keys. -/
theorem pairwise_poolKeys_canonical (pool : Pool) :
    (container.canonical.poolKeys pool).Pairwise (· ≤ ·) := by
  simp only [← notBehind_iff_le]
  cases pool with
  | string =>
      exact List.pairwise_map.mpr Numbering.pairwise_arrange
  | type =>
      exact Numbering.pairwise_keys_arrange_map _ _ _ typeKey fun _ => rfl
  | proto =>
      refine Numbering.pairwise_keys_arrange_map _ _ _ Proto.key fun proto => ?_
      simp only [Proto.key, Proto.mapRefs, List.map_map]
      rfl
  | field =>
      exact Numbering.pairwise_keys_arrange_map _ _ _ FieldId.key fun _ => rfl
  | method =>
      exact Numbering.pairwise_keys_arrange_map _ _ _ MethodId.key fun _ => rfl
  | _ =>
      exact .nil

/-- Entries have different keys after they are changed and rearranged if they had before. -/
theorem nodup_keys_arrange_map
    {α : Type}
    {entries : Array α}
    {numbering : Numbering}
    (covers : numbering.Covers entries.size)
    {key : α → SortKey}
    {change : α → α}
    (different : (entries.toList.map key).Nodup)
    (reflects : ∀ x y, key (change x) = key (change y) → key x = key y) :
    ((numbering.arrange (entries.map change)).toList.map key).Nodup := by
  have moved := (covers.arrange_map_perm change).map key
  rw [moved.nodup_iff, List.map_map]
  exact List.pairwise_map.mpr ((List.pairwise_map.mp different).imp fun unequal same =>
    unequal (reflects _ _ same))

/-- Entries with different keys have different keys in canonical order. -/
theorem nodup_poolKeys_canonical
    (numbered : container.Numbered)
    {pool : Pool}
    (different : (container.poolKeys pool).Nodup) :
    (container.canonical.poolKeys pool).Nodup := by
  have covers := Renumbering.covers_ofContainer container
  have injective (pool : Pool) := map_injective covers numbered pool
  cases pool with
  | string =>
      have moved := covers.strings.arrange_perm.map Renumbering.stringKey
      exact moved.nodup_iff.mpr different
  | type =>
      refine nodup_keys_arrange_map covers.types different fun first second same => ?_
      rw [injective .string (UInt32.toNat_inj.mp (List.cons.inj same).1)]
  | proto =>
      refine nodup_keys_arrange_map covers.protos different fun first second same => ?_
      obtain ⟨sameReturned, sameParameters⟩ := List.cons.inj same
      simp only [Proto.mapRefs, List.map_map] at sameReturned sameParameters
      have toNatInjective : Function.Injective UInt32.toNat := fun _ _ => UInt32.toNat_inj.mp
      rw [Proto.key, Proto.key, injective .type (toNatInjective sameReturned),
        List.map_injective_iff.mpr (toNatInjective.comp (injective .type)) sameParameters]
  | field =>
      refine nodup_keys_arrange_map covers.fields different fun first second same => ?_
      simp only [FieldId.key, FieldId.mapRefs, List.cons.injEq, UInt32.toNat_inj, and_true] at same
      rw [FieldId.key, FieldId.key, injective .type same.1, injective .string same.2.1,
        injective .type same.2.2]
  | method =>
      refine nodup_keys_arrange_map covers.methods different fun first second same => ?_
      simp only [MethodId.key, MethodId.mapRefs, List.cons.injEq, UInt32.toNat_inj, and_true]
        at same
      rw [MethodId.key, MethodId.key, injective .type same.1, injective .string same.2.1,
        injective .proto same.2.2]
  | _ =>
      exact .nil

/-- Entries with different keys are in strict order. -/
theorem pairwise_lt_poolKeys_canonical
    (numbered : container.Numbered)
    {pool : Pool}
    (different : (container.poolKeys pool).Nodup) :
    (container.canonical.poolKeys pool).Pairwise (· < ·) :=
  ((pairwise_poolKeys_canonical pool).and (nodup_poolKeys_canonical numbered different)).imp
    fun both => lt_of_le_of_ne both.1 both.2

end Container

/-! ## Annotations -/

namespace Value

/-- The value is another one, or stands somewhere inside it. -/
def Within (part whole : Value) : Prop :=
  Relation.ReflTransGen (fun outer direct => direct ∈ outer.inner) whole part

/-- The elements of every annotation in a value stand in the order of their names. -/
def Ascends (value : Value) : Prop :=
  ∀ (type : UInt32) (elements : List (UInt32 × Value)),
    Within (.annotated type elements) value →
      elements.Pairwise fun first second => first.1 ≤ second.1

/-- What stands in an arranged value is arranged. -/
theorem exists_of_mem_inner_arranged
    {value part : Value}
    (member : part ∈ value.arranged.inner) :
    ∃ old ∈ value.inner, old.arranged = part := by
  cases value with
  | array items =>
      rw [arranged, arrangedItems_eq] at member
      exact List.mem_map.mp member
  | annotated index elements =>
      rw [arranged, arrangedElements_eq] at member
      obtain ⟨element, isElement, rfl⟩ := List.mem_map.mp member
      obtain ⟨old, isOld, rfl⟩ := List.mem_map.mp (mem_sortOn.mp isElement)
      exact ⟨old.2, List.mem_map_of_mem isOld, rfl⟩
  | _ =>
      cases member

theorem ascends_arranged (value : Value) : value.arranged.Ascends := by
  induction value using nestedInduction with
  | step value inductionHypothesis =>
      intro type elements within
      rcases within.cases_head with same | ⟨direct, isDirect, deeper⟩
      · cases value with
        | annotated index old =>
            obtain ⟨-, rfl⟩ := annotated.inj same
            exact pairwise_sortOn _ _
        | _ =>
            cases same
      · obtain ⟨old, isOld, rfl⟩ := exists_of_mem_inner_arranged isDirect
        exact inductionHypothesis old isOld type elements deeper

theorem ascends_of_mem_arrangedItems
    {items : List Value}
    {value : Value}
    (member : value ∈ arrangedItems items) :
    value.Ascends := by
  rw [arrangedItems_eq] at member
  obtain ⟨old, -, rfl⟩ := List.mem_map.mp member
  exact old.ascends_arranged

end Value

/-- The annotations stand in the order of their types, and so do the elements of each in the order
of their names. -/
structure AnnotationSet.Ascends (set : AnnotationSet) : Prop where
  types : List.Pairwise (fun first second => first.type ≤ second.type) set
  elements :
    ∀ item ∈ (set : List AnnotationItem), (Value.annotated item.type item.elements).Ascends

theorem AnnotationSet.ascends_arranged (set : AnnotationSet) :
    (AnnotationSet.arranged set).Ascends where
  types := pairwise_sortOn _ _
  elements := by
    intro item member
    obtain ⟨old, -, rfl⟩ := List.mem_map.mp (Value.mem_sortOn.mp member)
    exact Value.ascends_arranged (.annotated old.type old.elements)

/-- The lists of annotated members stand in the order of the members, and all sets are in order. -/
structure AnnotationDirectory.Ascends (directory : AnnotationDirectory) : Prop where
  fields : directory.ofFields.Pairwise fun first second => first.1 ≤ second.1
  methods : directory.ofMethods.Pairwise fun first second => first.1 ≤ second.1
  parameters : directory.ofParameters.Pairwise fun first second => first.1 ≤ second.1
  sets : ∀ set ∈ directory.sets, set.Ascends

theorem AnnotationDirectory.ascends_arranged (directory : AnnotationDirectory) :
    directory.arranged.Ascends where
  fields := List.pairwise_map.mpr (pairwise_sortOn Prod.fst directory.ofFields)
  methods := List.pairwise_map.mpr (pairwise_sortOn Prod.fst directory.ofMethods)
  parameters := List.pairwise_map.mpr (pairwise_sortOn Prod.fst directory.ofParameters)
  sets := by
    intro set member
    rw [arranged, sets_mapSets] at member
    obtain ⟨old, -, rfl⟩ := List.mem_map.mp member
    exact AnnotationSet.ascends_arranged old

/-! ## Members -/

/-- The members of a class stand in the order of their numbers. -/
structure ClassData.Ascends (data : ClassData) : Prop where
  staticFields : data.staticFields.Pairwise fun first second => first.field ≤ second.field
  instanceFields : data.instanceFields.Pairwise fun first second => first.field ≤ second.field
  directMethods : data.directMethods.Pairwise fun first second => first.method ≤ second.method
  virtualMethods : data.virtualMethods.Pairwise fun first second => first.method ≤ second.method

theorem ClassData.ascends_arranged (data : ClassData) : data.arranged.Ascends :=
  ⟨pairwise_sortOn _ _, pairwise_sortOn _ _, pairwise_sortOn _ _, pairwise_sortOn _ _⟩

theorem ClassData.Ascends.methods
    {data : ClassData}
    (ascends : data.Ascends)
    (kind : MethodKind) :
    (data.methods kind).Pairwise fun first second => first.method ≤ second.method := by
  cases kind with
  | direct => exact ascends.directMethods
  | virtual => exact ascends.virtualMethods

/-- All lists of a class are in order. -/
structure ClassDef.Ascends (classDef : ClassDef) : Prop where
  annotations : ∀ directory ∈ classDef.annotations, directory.Ascends
  data : ∀ data ∈ classDef.data, data.Ascends
  staticValues : ∀ values ∈ classDef.staticValues, ∀ value ∈ values, value.Ascends

theorem ClassDef.ascends_arranged (classDef : ClassDef) : classDef.arranged.Ascends where
  annotations := by
    intro directory member
    obtain ⟨old, -, rfl⟩ := Option.map_eq_some_iff.mp member
    exact old.ascends_arranged
  data := by
    intro data member
    obtain ⟨old, -, rfl⟩ := Option.map_eq_some_iff.mp member
    exact old.ascends_arranged
  staticValues := by
    intro values isValues value member
    obtain ⟨old, -, rfl⟩ := Option.map_eq_some_iff.mp isValues
    exact Value.ascends_of_mem_arrangedItems member

namespace Container

/-- All lists of a container are in order. -/
structure Ascends (container : Container) : Prop where
  classes : ∀ classDef ∈ container.classes, classDef.Ascends
  callSites : ∀ callSite ∈ container.callSites, ∀ value ∈ callSite, value.Ascends

theorem ascends_canonical (container : Container) : container.canonical.Ascends where
  classes := List.forall_mem_map.mpr fun classDef _ => classDef.ascends_arranged
  callSites :=
    List.forall_mem_map.mpr fun _ _ _ member => Value.ascends_of_mem_arrangedItems member

variable {container : Container}

/-- What is read from the image of a shaped container is in canonical order: the pools by their
keys, strictly if no two entries of a pool had one key, and all lists by the numbers that they are
listed under. -/
theorem decode_encode_ordered
    {image : Bytes}
    (encoded : container.encode = .ok image)
    (fits : image.size < 4294967296)
    (shaped : container.Shaped)
    (headed : ∀ blob ∈ container.hiddenApi, HeadedByLength blob) :
    ∃ result,
      decode image = .ok result ∧
        (∀ pool,
          (result.poolKeys pool).Pairwise (· ≤ ·) ∧
            ((container.poolKeys pool).Nodup → (result.poolKeys pool).Pairwise (· < ·))) ∧
          result.Ascends := by
  obtain ⟨reread, decoded, -⟩ := exists_decode_of_encode encoded fits shaped headed
  obtain ⟨-, -, rfl⟩ := encode_eq_ok_iff.mp encoded
  have samePools (pool : Pool) :
      poolKeys { container.canonical with hiddenApi := reread } pool =
        container.canonical.poolKeys pool := by
    cases pool <;> rfl
  obtain ⟨classes, callSites⟩ := container.ascends_canonical
  refine ⟨_, decoded, fun pool => ?_, ⟨classes, callSites⟩⟩
  rw [samePools]
  exact ⟨pairwise_poolKeys_canonical pool,
    pairwise_lt_poolKeys_canonical (numbered_of_image fits)⟩

/-- The unsorted container is read back in canonical order, strictly in each pool. -/
theorem decode_encode_ordered_unsorted :
    unsorted.encode = .ok unsorted.canonical.image ∧
      (∀ pool, (unsorted.poolKeys pool).Nodup) ∧
        ∃ result,
          decode unsorted.canonical.image = .ok result ∧
            (∀ pool, (result.poolKeys pool).Pairwise (· < ·)) ∧ result.Ascends := by
  have different (pool : Pool) : (unsorted.poolKeys pool).Nodup := by
    cases pool <;> decide +kernel
  obtain ⟨result, decoded, pools, lists⟩ :=
    decode_encode_ordered encode_unsorted size_unsorted shaped_unsorted (by simp [unsorted, empty])
  exact ⟨encode_unsorted, different, result, decoded,
    fun pool => (pools pool).2 (different pool), lists⟩

end Container

end DexPatch
