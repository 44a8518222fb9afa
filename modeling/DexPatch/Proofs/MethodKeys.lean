import DexPatch.Patch.Locate
import DexPatch.Proofs.Locating

namespace DexPatch

/-!
# Where methods stand

A key tells the class of a method, the list that the method is in and its place
there.  The records of a container are those of the methods that stand at some
key, each once and in the order of the keys, and what is looked up or changed at
a key is the method that stands there.  So a request is applied to the first
method in this order that suits it.
-/

/-- The declaration order of keys: class by class, direct methods before virtual ones, and by
position in a list. -/
inductive MethodKey.Before : MethodKey → MethodKey → Prop
  | ofClass {first second : MethodKey}
      (earlier : first.classIndex < second.classIndex) :
      Before first second
  | ofKind (classIndex position other : Nat) :
      Before { classIndex, kind := .direct, position }
        { classIndex, kind := .virtual, position := other }
  | ofPosition (classIndex : Nat) (kind : MethodKind) {position other : Nat}
      (earlier : position < other) :
      Before { classIndex, kind, position } { classIndex, kind, position := other }

/-- No two keys are before each other. -/
theorem MethodKey.Before.asymm
    {first second : MethodKey}
    (before : first.Before second) :
    ¬ second.Before first := by
  intro behind
  cases before with
  | ofClass earlier =>
      cases behind with
      | ofClass later => exact Nat.lt_asymm earlier later
      | ofKind | ofPosition => exact Nat.lt_irrefl _ earlier
  | ofKind =>
      cases behind with
      | ofClass later => exact Nat.lt_irrefl _ later
  | ofPosition classIndex kind earlier =>
      cases behind with
      | ofClass later => exact Nat.lt_irrefl _ later
      | ofPosition _ _ later => exact Nat.lt_asymm earlier later

/-- Numbered elements have ascending numbers. -/
theorem pairwise_zipIdx
    {α : Type}
    (list : List α) :
    list.zipIdx.Pairwise fun first second => first.2 < second.2 := by
  have numbers : (list.zipIdx.map Prod.snd).Pairwise (· < ·) := by
    rw [List.zipIdx_map_snd]
    exact List.pairwise_lt_range'
  exact List.pairwise_map.mp numbers

/-- In a list that is in order, a search finds the element that comes before all others that are
looked for. -/
theorem find?_eq_some_iff_of_pairwise
    {α : Type}
    {before : α → α → Prop}
    (asymm : ∀ x y, before x y → ¬ before y x)
    {p : α → Bool}
    {list : List α}
    (ordered : list.Pairwise before)
    {x : α} :
    list.find? p = some x ↔ x ∈ list ∧ p x ∧ ∀ y ∈ list, p y → y = x ∨ before x y := by
  have isLeast {x : α} (found : list.find? p = some x) :
      x ∈ list ∧ p x ∧ ∀ y ∈ list, p y → y = x ∨ before x y := by
    obtain ⟨has, earlier, later, rfl, others⟩ := List.find?_eq_some_iff_append.mp found
    refine ⟨by simp, has, fun y member hasY => ?_⟩
    rcases List.mem_append.mp member with early | late
    · have lacks := others y early
      rw [hasY] at lacks
      cases lacks
    · refine (List.mem_cons.mp late).imp_right fun behind => ?_
      exact List.rel_of_pairwise_cons (List.pairwise_append.mp ordered).2.1 behind
  refine ⟨isLeast, fun ⟨member, has, least⟩ => ?_⟩
  cases found : list.find? p with
  | none =>
      exact absurd has (List.find?_eq_none.mp found x member)
  | some y =>
      obtain ⟨memberY, hasY, leastY⟩ := isLeast found
      rcases least y memberY hasY with rfl | before
      · rfl
      · rcases leastY x member has with rfl | behind
        · rfl
        · exact absurd behind (asymm x y before)

/-- An element that a change leaves as it is can be changed in its list. -/
theorem modify_eq_self
    {α : Type}
    {list : List α}
    {i : Nat}
    {change : α → α}
    (same : ∀ x ∈ list[i]?, change x = x) :
    list.modify i change = list := by
  refine List.ext_getElem? fun j => ?_
  rw [List.getElem?_modify]
  by_cases here : i = j
  · subst here
    cases found : list[i]? with
    | none =>
        rfl
    | some x =>
        simp [same x found]
  · simp [here]

/-- A list is what stands in front of an element, the element and what stands behind it. -/
theorem take_append_cons_drop
    {α : Type}
    {list : List α}
    {i : Nat}
    {x : α}
    (found : list[i]? = some x) :
    list = list.take i ++ x :: list.drop (i + 1) := by
  obtain ⟨inside, rfl⟩ := List.getElem?_eq_some_iff.mp found
  simp

namespace ClassData

/-- The class with other methods of one kind. -/
def withMethods (data : ClassData) (kind : MethodKind) (methods : List MemberMethod) : ClassData :=
  data.mapMethods kind fun _ => methods

theorem mapMethods_eq
    (data : ClassData)
    (kind : MethodKind)
    (change : List MemberMethod → List MemberMethod) :
    data.mapMethods kind change = data.withMethods kind (change (data.methods kind)) := by
  cases kind <;> rfl

theorem withMethods_methods
    (data : ClassData)
    (kind : MethodKind) :
    data.withMethods kind (data.methods kind) = data := by
  cases kind <;> rfl

/-- The keys of a class are in order. -/
theorem pairwise_keyedMethods
    (data : ClassData)
    (classIndex : Nat) :
    (data.keyedMethods classIndex).Pairwise fun first second => first.1.Before second.1 := by
  have one (kind : MethodKind) :
      ((data.methods kind).zipIdx.map fun entry =>
          (({ classIndex, kind, position := entry.2 } : MethodKey), entry.1)).Pairwise
        fun first second => first.1.Before second.1 := by
    rw [List.pairwise_map]
    exact (pairwise_zipIdx (data.methods kind)).imp fun earlier => .ofPosition _ _ earlier
  refine List.pairwise_append.mpr ⟨one .direct, one .virtual, ?_⟩
  intro first isDirect second isVirtual
  obtain ⟨⟨_, position⟩, -, rfl⟩ := List.mem_map.mp isDirect
  obtain ⟨⟨_, other⟩, -, rfl⟩ := List.mem_map.mp isVirtual
  exact .ofKind classIndex position other

/-- The keys of a class are those of its own methods. -/
theorem classIndex_of_mem_keyedMethods
    {data : ClassData}
    {classIndex : Nat}
    {entry : MethodKey × MemberMethod}
    (member : entry ∈ data.keyedMethods classIndex) :
    entry.1.classIndex = classIndex := by
  rw [keyedMethods, List.mem_append] at member
  rcases member with isDirect | isVirtual
  · obtain ⟨_, -, rfl⟩ := List.mem_map.mp isDirect
    rfl
  · obtain ⟨_, -, rfl⟩ := List.mem_map.mp isVirtual
    rfl

end ClassData

namespace Container

variable {container : Container}

/-- The method stands at the key: at its position in the list of its kind, in the class at its
position. -/
def StandsAt (container : Container) (key : MethodKey) (method : MemberMethod) : Prop :=
  ∃ classDef data,
    container.classes[key.classIndex]? = some classDef ∧
      classDef.data = some data ∧ (data.methods key.kind)[key.position]? = some method

theorem method?_eq_some_iff
    {key : MethodKey}
    {method : MemberMethod} :
    container.method? key = some method ↔ container.StandsAt key method := by
  rw [method?, StandsAt]
  cases isClass : container.classes[key.classIndex]? with
  | none =>
      simp
  | some classDef =>
      cases isData : classDef.data <;> simp [isData]

/-! ## Records -/

/-- The keys of all methods are in order. -/
theorem pairwise_keyedMethods (container : Container) :
    container.keyedMethods.Pairwise fun first second => first.1.Before second.1 := by
  refine List.pairwise_flatMap.mpr ⟨fun ⟨classDef, classIndex⟩ _ => ?_, ?_⟩
  · dsimp only
    split
    · exact .nil
    · next data _ => exact data.pairwise_keyedMethods classIndex
  · refine (pairwise_zipIdx container.classes).imp fun {first second} earlier => ?_
    intro entry member other memberOther
    dsimp only at member memberOther
    split at member
    · cases member
    split at memberOther
    · cases memberOther
    refine .ofClass ?_
    rw [ClassData.classIndex_of_mem_keyedMethods member,
      ClassData.classIndex_of_mem_keyedMethods memberOther]
    exact earlier

/-- Records are in the order of their keys. -/
theorem pairwise_records (container : Container) :
    container.records.Pairwise fun first second => first.key.Before second.key :=
  List.pairwise_map.mpr (pairwise_keyedMethods container)

/-- The records are those of the methods that stand at some key. -/
theorem mem_records_iff {record : MethodRecord} :
    record ∈ container.records ↔
      ∃ method, container.StandsAt record.key method ∧
        record = container.recordOf record.key method := by
  rw [records, List.mem_map]
  constructor
  · rintro ⟨⟨key, method⟩, listed, rfl⟩
    exact ⟨method, method?_eq_some_iff.mp (mem_keyedMethods_iff.mp listed), rfl⟩
  · rintro ⟨method, stands, isRecord⟩
    exact ⟨(record.key, method), mem_keyedMethods_iff.mpr (method?_eq_some_iff.mpr stands),
      isRecord.symm⟩

/-- What is looked up at a key is the record that is listed with it. -/
theorem record?_eq_some_iff
    {key : MethodKey}
    {record : MethodRecord} :
    container.record? key = some record ↔ record ∈ container.records ∧ record.key = key := by
  rw [record?, Option.map_eq_some_iff, mem_records_iff]
  constructor
  · rintro ⟨method, found, rfl⟩
    exact ⟨⟨method, method?_eq_some_iff.mp found, rfl⟩, rfl⟩
  · rintro ⟨⟨method, stands, isRecord⟩, rfl⟩
    exact ⟨method, method?_eq_some_iff.mpr stands, isRecord.symm⟩

/-! ## Changes -/

/-- The two containers are the same, but for one method that stands at the key. -/
def ChangedAt (key : MethodKey) (old new : MemberMethod) (before after : Container) : Prop :=
  ∃ earlier classDef later data front back,
    before.classes = earlier ++ classDef :: later ∧ earlier.length = key.classIndex ∧
      classDef.data = some data ∧
        data.methods key.kind = front ++ old :: back ∧ front.length = key.position ∧
          after =
            { before with
              classes :=
                earlier ++
                  { classDef with data := some (data.withMethods key.kind (front ++ new :: back)) } ::
                    later }

/-- A change at a key reaches the method that stands there and nothing else. -/
theorem changedAt_modifyMethod
    {key : MethodKey}
    {method : MemberMethod}
    (stands : container.StandsAt key method)
    (change : MemberMethod → MemberMethod) :
    ChangedAt key method (change method) container (container.modifyMethod key change) := by
  obtain ⟨classDef, data, isClass, isData, found⟩ := stands
  obtain ⟨insideClasses, isClassThere⟩ := List.getElem?_eq_some_iff.mp isClass
  obtain ⟨insideMethods, foundThere⟩ := List.getElem?_eq_some_iff.mp found
  refine ⟨container.classes.take key.classIndex, classDef,
    container.classes.drop (key.classIndex + 1), data, (data.methods key.kind).take key.position,
    (data.methods key.kind).drop (key.position + 1), take_append_cons_drop isClass,
    List.length_take_of_le (Nat.le_of_lt insideClasses), isData, take_append_cons_drop found,
    List.length_take_of_le (Nat.le_of_lt insideMethods), ?_⟩
  rw [modifyMethod, List.modify_eq_take_cons_drop insideClasses, isClassThere, isData,
    Option.map_some, ClassData.mapMethods_eq, List.modify_eq_take_cons_drop insideMethods, foundThere]

/-- A change at a key at which no method stands changes nothing. -/
theorem modifyMethod_of_none
    {key : MethodKey}
    (none : container.method? key = none)
    (change : MemberMethod → MemberMethod) :
    container.modifyMethod key change = container := by
  have same : container.classes.modify key.classIndex (fun classDef =>
      { classDef with
        data := classDef.data.map fun data =>
          data.mapMethods key.kind (·.modify key.position change) }) = container.classes := by
    refine modify_eq_self fun classDef isClass => ?_
    cases isData : classDef.data with
    | none =>
        rw [Option.map_none, ← isData]
    | some data =>
        have outside : (data.methods key.kind)[key.position]? = Option.none := by
          simpa [method?, Option.mem_def.mp isClass, isData] using none
        have kept : (data.methods key.kind).modify key.position change = data.methods key.kind :=
          modify_eq_self fun method found => by cases outside ▸ Option.mem_def.mp found
        rw [Option.map_some, ClassData.mapMethods_eq, kept, ClassData.withMethods_methods, ← isData]
  rw [modifyMethod, same]

end Container

namespace Request

variable {request : Request} {record : MethodRecord}

/-- The request can be applied to the method: it has the name and the return type that are asked
for, and a body, and it agrees with the qualifiers that are given. -/
structure Suits (request : Request) (record : MethodRecord) : Prop where
  name : record.name = request.methodName
  returnType : record.returnType = request.behavior.returnType
  body : record.body ≠ none
  declaringType : ∀ descriptor ∈ request.declaringType, record.declaringType = descriptor
  parameterTypes : ∀ descriptors ∈ request.parameterTypes, record.parameterTypes = descriptors

theorem fits_iff_suits : request.fits record = true ↔ request.Suits record := by
  simp only [fits, Bool.and_eq_true, beq_iff_eq, Option.all_eq_true, MethodRecord.hasBody,
    Option.isSome_iff_ne_none]
  constructor
  · rintro ⟨⟨⟨⟨name, returnType⟩, declaringType⟩, parameterTypes⟩, body⟩
    exact ⟨name, returnType, body, declaringType, parameterTypes⟩
  · rintro ⟨name, returnType, body, declaringType, parameterTypes⟩
    exact ⟨⟨⟨⟨name, returnType⟩, declaringType⟩, parameterTypes⟩, body⟩

variable {container : Container}

/-- A request finds the first method that suits it. -/
theorem target?_eq_some_iff :
    request.target? container = some record ↔
      record ∈ container.records ∧ request.Suits record ∧
        ∀ other ∈ container.records, request.Suits other →
          other = record ∨ record.key.Before other.key := by
  rw [target?, find?_eq_some_iff_of_pairwise (fun _ _ => MethodKey.Before.asymm)
    container.pairwise_records]
  simp only [fits_iff_suits]

/-- A request finds nothing exactly if no method suits it. -/
theorem target?_eq_none_iff :
    request.target? container = none ↔ ∀ record ∈ container.records, ¬ request.Suits record := by
  rw [target?, List.find?_eq_none]
  simp only [fits_iff_suits]

end Request

namespace Container

/-- Records are listed once for each method and in declaration order, what is looked up or changed
at a key is the method that is listed with it, and requests find the first record that suits
them. -/
theorem records_exact (container : Container) :
    container.records.Pairwise (fun first second => first.key.Before second.key) ∧
      (∀ record, record ∈ container.records ↔
        ∃ method, container.StandsAt record.key method ∧
          record = container.recordOf record.key method) ∧
      (∀ key record,
        container.record? key = some record ↔ record ∈ container.records ∧ record.key = key) ∧
      (∀ key change,
        (∀ method, container.StandsAt key method →
          ChangedAt key method (change method) container (container.modifyMethod key change)) ∧
        ((∀ method, ¬ container.StandsAt key method) →
          container.modifyMethod key change = container)) ∧
      ∀ request : Request,
        (∀ record,
          request.target? container = some record ↔
            record ∈ container.records ∧ request.Suits record ∧
              ∀ other ∈ container.records, request.Suits other →
                other = record ∨ record.key.Before other.key) ∧
        (request.target? container = none ↔
          ∀ record ∈ container.records, ¬ request.Suits record) := by
  refine ⟨container.pairwise_records, fun _ => mem_records_iff, fun _ _ => record?_eq_some_iff,
    fun key change => ⟨fun method stands => changedAt_modifyMethod stands change, fun none => ?_⟩,
    fun request => ⟨fun _ => Request.target?_eq_some_iff, Request.target?_eq_none_iff⟩⟩
  refine modifyMethod_of_none (Option.eq_none_iff_forall_ne_some.mpr fun method found => ?_) change
  exact none method (method?_eq_some_iff.mp found)

end Container

end DexPatch
