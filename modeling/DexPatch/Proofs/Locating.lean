import Mathlib.Data.List.Find
import Mathlib.Logic.Function.Basic
import DexPatch.Patch.Locate
import DexPatch.Proofs.Interning

namespace DexPatch

/-!
# Locating in a patched container

Patches replace bodies and intern entries, and neither changes what a method is
called.  So a request finds the same method before and after other requests
have been applied.
-/

/-! ## Replaced bodies -/

/-- The method with another body, if there is one to replace its own. -/
def MemberMethod.withBody (method : MemberMethod) (body : Option Body) : MemberMethod :=
  { method with body := body.or method.body }

/-- The members of a class with the bodies at some keys replaced. -/
def ClassData.withBodies
    (bodies : MethodKey → Option Body)
    (classIndex : Nat)
    (data : ClassData) :
    ClassData :=
  let replaced (kind : MethodKind) (methods : List MemberMethod) : List MemberMethod :=
    methods.mapIdx fun position method => method.withBody (bodies { classIndex, kind, position })
  { data with
    directMethods := replaced .direct data.directMethods
    virtualMethods := replaced .virtual data.virtualMethods }

/-- A class with the bodies at some keys replaced. -/
def ClassDef.withBodies
    (bodies : MethodKey → Option Body)
    (classIndex : Nat)
    (classDef : ClassDef) :
    ClassDef :=
  { classDef with data := classDef.data.map (ClassData.withBodies bodies classIndex) }

/-- The container with the bodies at some keys replaced. -/
def Container.withBodies (bodies : MethodKey → Option Body) (container : Container) : Container :=
  { container with classes := container.classes.mapIdx (ClassDef.withBodies bodies) }

theorem ClassData.methods_withBodies
    {bodies : MethodKey → Option Body}
    {classIndex : Nat}
    {data : ClassData}
    (kind : MethodKind) :
    (data.withBodies bodies classIndex).methods kind =
      (data.methods kind).mapIdx fun position method =>
        method.withBody (bodies { classIndex, kind, position }) := by
  cases kind <;> rfl

/-- New bodies leave the numbers of the methods as they are. -/
theorem ClassData.numbers_withBodies
    (bodies : MethodKey → Option Body)
    (classIndex : Nat)
    (data : ClassData)
    (kind : MethodKind) :
    ((data.withBodies bodies classIndex).methods kind).map (·.method) =
      (data.methods kind).map (·.method) := by
  rw [methods_withBodies]
  refine List.ext_getElem? fun position => ?_
  rw [List.getElem?_map, List.getElem?_mapIdx, List.getElem?_map, Option.map_map]
  rfl

theorem zipIdx_mapIdx
    {α β : Type}
    (change : Nat → α → β)
    (list : List α) :
    (list.mapIdx change).zipIdx = list.zipIdx.map fun (x, i) => (change i x, i) := by
  refine List.ext_getElem? fun i => ?_
  simp only [List.getElem?_zipIdx, List.getElem?_mapIdx, List.getElem?_map, Option.map_map]
  cases list[i]? <;> simp

theorem ClassData.keyedMethods_withBodies
    {bodies : MethodKey → Option Body}
    {data : ClassData}
    (classIndex : Nat) :
    (data.withBodies bodies classIndex).keyedMethods classIndex =
      (data.keyedMethods classIndex).map fun (key, method) =>
        (key, method.withBody (bodies key)) := by
  simp only [keyedMethods, methods_withBodies, zipIdx_mapIdx, List.map_append, List.map_map]
  rfl

namespace Container

variable {container : Container} {bodies : MethodKey → Option Body}

theorem keyedMethods_withBodies :
    (container.withBodies bodies).keyedMethods =
      container.keyedMethods.map fun (key, method) => (key, method.withBody (bodies key)) := by
  rw [keyedMethods, withBodies, zipIdx_mapIdx, List.flatMap_map, keyedMethods, List.map_flatMap]
  refine List.flatMap_congr fun ⟨classDef, classIndex⟩ _ => ?_
  cases isData : classDef.data with
  | none =>
      simp [ClassDef.withBodies, isData]
  | some data =>
      simp only [ClassDef.withBodies, isData, Option.map_some]
      exact ClassData.keyedMethods_withBodies classIndex

theorem method?_withBodies (key : MethodKey) :
    (container.withBodies bodies).method? key =
      (container.method? key).map (MemberMethod.withBody · (bodies key)) := by
  rw [method?, method?, withBodies, List.getElem?_mapIdx]
  cases isClass : container.classes[key.classIndex]? with
  | none =>
      rfl
  | some classDef =>
      cases isData : classDef.data with
      | none =>
          simp [ClassDef.withBodies, isData]
      | some data =>
          simp [ClassDef.withBodies, isData, ClassData.methods_withBodies]

/-- The methods that are listed are those at the keys. -/
theorem mem_keyedMethods_iff
    {key : MethodKey}
    {method : MemberMethod} :
    (key, method) ∈ container.keyedMethods ↔ container.method? key = some method := by
  obtain ⟨classIndex, kind, position⟩ := key
  simp only [keyedMethods, List.mem_flatMap, Prod.exists, List.mem_zipIdx_iff_getElem?, method?]
  constructor
  · rintro ⟨classDef, i, isClass, member⟩
    cases isData : classDef.data with
    | none =>
        simp [isData] at member
    | some data =>
        simp only [isData, ClassData.keyedMethods, List.mem_append, List.mem_map, Prod.exists,
          List.mem_zipIdx_iff_getElem?, Prod.mk.injEq, MethodKey.mk.injEq] at member
        rcases member with ⟨_, _, found, ⟨rfl, rfl, rfl⟩, rfl⟩ | ⟨_, _, found, ⟨rfl, rfl, rfl⟩, rfl⟩
        · simpa [isClass, isData] using found
        · simpa [isClass, isData] using found
  · intro found
    cases isClass : container.classes[classIndex]? with
    | none =>
        simp [isClass] at found
    | some classDef =>
        cases isData : classDef.data with
        | none =>
            simp [isClass, isData] at found
        | some data =>
            simp only [isClass, isData] at found
            refine ⟨classDef, classIndex, isClass, ?_⟩
            simp only [isData, ClassData.keyedMethods, List.mem_append, List.mem_map, Prod.exists,
              List.mem_zipIdx_iff_getElem?, Prod.mk.injEq, MethodKey.mk.injEq]
            cases kind with
            | direct =>
                exact .inl ⟨method, position, found, by simp⟩
            | virtual =>
                exact .inr ⟨method, position, found, by simp⟩

end Container

/-! ## Records with other numbers -/

/-- The record of a method with other numbers. -/
def MethodRecord.mapRefs (renumber : RefMap) (record : MethodRecord) : MethodRecord :=
  { record with
    method := renumber .method record.method
    body := record.body.map (Body.mapRefs renumber) }

theorem MethodRecord.mapRefs_unchanged (record : MethodRecord) :
    record.mapRefs RefMap.unchanged = record := by
  have sameBody : Body.mapRefs RefMap.unchanged = id := funext Body.mapRefs_unchanged
  simp [mapRefs, sameBody, RefMap.unchanged]

/-! ## One more body -/

/-- Where the key of another class is meant, a class stays. -/
theorem ClassData.withBodies_update_of_ne
    {bodies : MethodKey → Option Body}
    {key : MethodKey}
    {body : Option Body}
    {classIndex : Nat}
    (elsewhere : classIndex ≠ key.classIndex)
    (data : ClassData) :
    data.withBodies (Function.update bodies key body) classIndex =
      data.withBodies bodies classIndex := by
  have same (kind : MethodKind) (position : Nat) :
      Function.update bodies key body { classIndex, kind, position } =
        bodies { classIndex, kind, position } := by
    refine Function.update_of_ne ?_ _ _
    rintro rfl
    exact elsewhere rfl
  simp only [withBodies, same]

/-- Replacing one more body in a list of methods. -/
theorem modify_withBody
    {bodies : MethodKey → Option Body}
    {classIndex position : Nat}
    {kind : MethodKind}
    (body : Body)
    (methods : List MemberMethod) :
    (methods.mapIdx fun position method =>
          method.withBody (bodies { classIndex, kind, position })).modify position
        (fun method => { method with body := some body }) =
      methods.mapIdx fun other method =>
        method.withBody
          (Function.update bodies { classIndex, kind, position } (some body)
            { classIndex, kind, position := other }) := by
  refine List.ext_getElem? fun i => ?_
  rw [List.getElem?_modify, List.getElem?_mapIdx, List.getElem?_mapIdx]
  by_cases here : position = i
  · subst here
    simp [MemberMethod.withBody, Function.comp_def]
  · have other : (⟨classIndex, kind, i⟩ : MethodKey) ≠ ⟨classIndex, kind, position⟩ := by
      simpa using Ne.symm here
    simp [here, Function.update_of_ne other]

/-- Replacing one more body in a class. -/
theorem ClassData.mapMethods_withBodies
    {bodies : MethodKey → Option Body}
    {key : MethodKey}
    (body : Body)
    (data : ClassData) :
    (data.withBodies bodies key.classIndex).mapMethods key.kind
        (fun methods =>
          methods.modify key.position fun method => { method with body := some body }) =
      data.withBodies (Function.update bodies key (some body)) key.classIndex := by
  obtain ⟨classIndex, kind, position⟩ := key
  have other (otherKind : MethodKind) (different : otherKind ≠ kind) (otherPosition : Nat) :
      Function.update bodies ⟨classIndex, kind, position⟩ (some body)
          ⟨classIndex, otherKind, otherPosition⟩ =
        bodies ⟨classIndex, otherKind, otherPosition⟩ := by
    refine Function.update_of_ne ?_ _ _
    simp [different]
  cases kind with
  | direct =>
      simp only [withBodies, mapMethods, modify_withBody, other .virtual (by simp)]
  | virtual =>
      simp only [withBodies, mapMethods, modify_withBody, other .direct (by simp)]

namespace Container

variable {container : Container} {bodies : MethodKey → Option Body}

/-- Replacing a body leaves all but the classes. -/
theorem extends_setBody (container : Container) (key : MethodKey) (body : Option Body) :
    container.Extends (container.setBody key body) :=
  { Extends.refl container with }

/-- Replacing one more body in a container. -/
theorem classes_setBody
    {patched : Container}
    (replaced : patched.classes = (container.withBodies bodies).classes)
    (key : MethodKey)
    (body : Body) :
    (patched.setBody key (some body)).classes =
      (container.withBodies (Function.update bodies key (some body))).classes := by
  refine List.ext_getElem? fun i => ?_
  simp only [setBody, modifyMethod, replaced, withBodies, List.getElem?_modify, List.getElem?_mapIdx]
  cases isClass : container.classes[i]? with
  | none =>
      simp
  | some classDef =>
      by_cases here : key.classIndex = i
      · subst here
        cases isData : classDef.data with
        | none =>
            simp [ClassDef.withBodies, isData]
        | some data =>
            simp [ClassDef.withBodies, isData, ClassData.mapMethods_withBodies]
      · have stays :
            ClassData.withBodies (Function.update bodies key (some body)) i =
              ClassData.withBodies bodies i :=
          funext fun data => data.withBodies_update_of_ne (Ne.symm here)
        simp [here, ClassDef.withBodies, stays]

/-! ## Closed containers -/

/-- All references inside the pools lead to entries, and the methods of classes are methods of the
pool. -/
structure Closed (container : Container) : Prop where
  pools : ∀ ref ∈ container.poolRefs, container.Leads ref
  methods :
    ∀ (key : MethodKey) (method : MemberMethod),
      container.method? key = some method → method.method.toNat < container.methods.size

namespace Closed

variable (closed : container.Closed)

include closed

/-- The string of a type is one of the pool. -/
theorem string_lt
    {type : UInt32}
    {string : UInt32}
    (found : container.types[type.toNat]? = some string) :
    string.toNat < container.strings.size :=
  ((forall_poolRefs_iff.mp closed.pools).1 string (Array.mem_of_getElem? found)).1

/-- The types of a prototype are those of the pool. -/
theorem types_lt
    {index : UInt32}
    {proto : Proto}
    (found : container.protos[index.toNat]? = some proto) :
    proto.returnType.toNat < container.types.size ∧
      ∀ type ∈ proto.parameters, type.toNat < container.types.size := by
  have leads := (forall_poolRefs_iff.mp closed.pools).2.1 proto (Array.mem_of_getElem? found)
  obtain ⟨-, parameters, returnType⟩ := Proto.forall_mem_refs_iff.mp leads
  exact ⟨returnType.1, fun type isParameter => (parameters type isParameter).1⟩

/-- The parts of a method are those of the pools. -/
theorem parts_lt
    {index : UInt32}
    {id : MethodId}
    (found : container.methods[index.toNat]? = some id) :
    id.declaringType.toNat < container.types.size ∧ id.name.toNat < container.strings.size ∧
      id.proto.toNat < container.protos.size := by
  have leads := (forall_poolRefs_iff.mp closed.pools).2.2.2 id (Array.mem_of_getElem? found)
  obtain ⟨declaringType, name, proto⟩ := MethodId.forall_mem_refs_iff.mp leads
  exact ⟨declaringType.1, name.1, proto.1⟩

end Closed

/-! ## Names stay -/

namespace Follows

variable {renumber : RefMap} {before after : Container} (follows : before.Follows renumber after)

include follows

theorem string_eq
    {index : UInt32}
    (inside : index.toNat < before.strings.size) :
    after.string (renumber .string index) = before.string index := by
  have found := Array.getElem?_eq_getElem inside
  rw [string, string, found, follows.strings _ _ found]

theorem typeName_eq
    (closed : before.Closed)
    {index : UInt32}
    (inside : index.toNat < before.types.size) :
    after.typeName (renumber .type index) = before.typeName index := by
  have found := Array.getElem?_eq_getElem inside
  rw [typeName, typeName, found, follows.types _ _ found]
  exact follows.string_eq (closed.string_lt found)

/-- A method is called what it was called before. -/
theorem recordOf_eq
    (closed : before.Closed)
    {method : MemberMethod}
    (inside : method.method.toNat < before.methods.size)
    (key : MethodKey) :
    after.recordOf key (method.mapRefs renumber) =
      (before.recordOf key method).mapRefs renumber := by
  obtain ⟨id, found⟩ : ∃ id, before.methods[method.method.toNat]? = some id :=
    ⟨_, Array.getElem?_eq_getElem inside⟩
  obtain ⟨declaringInside, nameInside, protoInside⟩ := closed.parts_lt found
  obtain ⟨proto, foundProto⟩ : ∃ proto, before.protos[id.proto.toNat]? = some proto :=
    ⟨_, Array.getElem?_eq_getElem protoInside⟩
  obtain ⟨returnInside, parametersInside⟩ := closed.types_lt foundProto
  have foundThen :
      after.methods[(method.mapRefs renumber).method.toNat]? = some (id.mapRefs renumber) :=
    follows.methods _ _ found
  have foundProtoThen :
      after.protos[(id.mapRefs renumber).proto.toNat]? = some (proto.mapRefs renumber) :=
    follows.protos _ _ foundProto
  have parameters :
      (proto.mapRefs renumber).parameters.map after.typeName =
        proto.parameters.map before.typeName := by
    rw [Proto.mapRefs, List.map_map]
    exact List.map_congr_left fun type isParameter =>
      follows.typeName_eq closed (parametersInside type isParameter)
  have declaring := follows.typeName_eq closed declaringInside
  have returned := follows.typeName_eq closed returnInside
  have name := follows.string_eq nameInside
  simp only [recordOf, found, foundThen, Option.bind_some, foundProto, foundProtoThen, parameters]
  simp only [MethodRecord.mapRefs, MethodId.mapRefs, Proto.mapRefs, MemberMethod.mapRefs, declaring,
    returned, name]

end Follows

/-- What stands in longer pools is followed at the numbers it has. -/
theorem Extends.follows
    {before after : Container}
    (grown : before.Extends after) :
    before.Follows RefMap.unchanged after where
  strings _ _ := getElem?_of_grown grown.strings
  types _ _ := getElem?_of_grown grown.types
  protos _ proto found := by
    rw [proto.mapRefs_unchanged]
    exact getElem?_of_grown grown.protos found
  fields _ _ := getElem?_of_grown grown.fields
  methods _ _ := getElem?_of_grown grown.methods

/-- The record of a method stays where entries are only added. -/
theorem Extends.recordOf_eq
    {before after : Container}
    (grown : before.Extends after)
    (closed : before.Closed)
    {method : MemberMethod}
    (inside : method.method.toNat < before.methods.size)
    (key : MethodKey) :
    after.recordOf key method = before.recordOf key method := by
  have renamed := grown.follows.recordOf_eq closed inside key
  rwa [method.mapRefs_unchanged, MethodRecord.mapRefs_unchanged] at renamed

/-! ## Bodies that are there already -/

theorem mapIdx_eq_self
    {α : Type}
    {change : Nat → α → α}
    {list : List α}
    (same : ∀ i x, list[i]? = some x → change i x = x) :
    list.mapIdx change = list := by
  refine List.ext_getElem? fun i => ?_
  rw [List.getElem?_mapIdx]
  cases found : list[i]? with
  | none =>
      rfl
  | some x =>
      rw [Option.map_some, same i x found]

/-- Bodies that are there already replace none. -/
theorem withBodies_eq_self
    (there : ∀ key, ∀ body ∈ bodies key, container.body? key = some body) :
    container.withBodies bodies = container := by
  have classes : container.classes.mapIdx (ClassDef.withBodies bodies) = container.classes := by
    refine mapIdx_eq_self fun classIndex classDef isClass => ?_
    have members (data : ClassData) (isData : classDef.data = some data) :
        data.withBodies bodies classIndex = data := by
      have methods (kind : MethodKind) :
          ((data.methods kind).mapIdx fun position method =>
            method.withBody (bodies { classIndex, kind, position })) = data.methods kind := by
        refine mapIdx_eq_self fun position method isMethod => ?_
        have found : container.method? { classIndex, kind, position } = some method := by
          rw [method?, isClass]
          dsimp only
          rw [isData]
          exact isMethod
        cases isNew : bodies { classIndex, kind, position } with
        | none =>
            rfl
        | some body =>
            have isBody := there _ body isNew
            rw [body?, found, Option.bind_some] at isBody
            rw [MemberMethod.withBody, Option.some_or, ← isBody]
      rw [ClassData.withBodies]
      exact congrArg₂ (ClassData.mk data.staticFields data.instanceFields) (methods .direct)
        (methods .virtual)
    cases isData : classDef.data with
    | none =>
        rw [ClassDef.withBodies, isData, Option.map_none, ← isData]
    | some data =>
        rw [ClassDef.withBodies, isData, Option.map_some, members data isData, ← isData]
  rw [withBodies, classes]

/-- No bodies replace none. -/
theorem withBodies_none (container : Container) :
    container.withBodies (fun _ => none) = container :=
  withBodies_eq_self (by simp)

/-! ## The same method is found -/

/-- The second container is the first with its pools grown and the bodies at some keys replaced by
ones that take as many arguments. -/
structure Replaced (bodies : MethodKey → Option Body) (before after : Container) : Prop extends
    Extends before after where
  classes : after.classes = (before.withBodies bodies).classes
  hiddenApi : after.hiddenApi = before.hiddenApi
  bodied : ∀ key, ∀ body ∈ bodies key, ∃ old, before.body? key = some old ∧ body.ins = old.ins

/-- Before any patch nothing is replaced. -/
theorem Replaced.refl (container : Container) : Replaced (fun _ => none) container container where
  toExtends := .refl container
  classes := by rw [withBodies_none]
  hiddenApi := rfl
  bodied := by simp

theorem exists_of_method?
    {key : MethodKey}
    {method : MemberMethod}
    (found : container.method? key = some method) :
    ∃ classDef ∈ container.classes, ∃ data ∈ classDef.data, method ∈ data.allMethods := by
  rw [method?] at found
  split at found
  · exact absurd found (by simp)
  · next classDef isClass =>
    split at found
    · exact absurd found (by simp)
    · next data isData =>
      refine ⟨classDef, List.mem_of_getElem? isClass, data, isData, ?_⟩
      cases isKind : key.kind with
      | direct =>
          rw [isKind] at found
          exact List.mem_append_left _ (List.mem_of_getElem? found)
      | virtual =>
          rw [isKind] at found
          exact List.mem_append_right _ (List.mem_of_getElem? found)

/-- Every method of a class has a key. -/
theorem exists_key
    {classDef : ClassDef}
    (isClass : classDef ∈ container.classes)
    {method : MemberMethod}
    (isMethod : method ∈ classDef.allMethods) :
    ∃ key, container.method? key = some method := by
  obtain ⟨classIndex, isClass⟩ := List.mem_iff_getElem?.mp isClass
  cases isData : classDef.data with
  | none =>
      simp [ClassDef.allMethods, isData] at isMethod
  | some data =>
      simp only [ClassDef.allMethods, isData, ClassData.allMethods] at isMethod
      rcases List.mem_append.mp isMethod with isDirect | isVirtual
      · obtain ⟨position, found⟩ := List.mem_iff_getElem?.mp isDirect
        exact ⟨{ classIndex, kind := .direct, position },
          by simpa [method?, isClass, isData, ClassData.methods] using found⟩
      · obtain ⟨position, found⟩ := List.mem_iff_getElem?.mp isVirtual
        exact ⟨{ classIndex, kind := .virtual, position },
          by simpa [method?, isClass, isData, ClassData.methods] using found⟩

/-- All bodies are those at the keys. -/
theorem forall_bodies_iff {holds : Body → Prop} :
    (∀ classDef ∈ container.classes, ∀ method ∈ classDef.allMethods, ∀ body ∈ method.body,
        holds body) ↔
      ∀ key body, container.body? key = some body → holds body := by
  constructor
  · intro all key body found
    obtain ⟨method, isMethod, isBody⟩ := Option.bind_eq_some_iff.mp found
    obtain ⟨classDef, isClass, data, isData, member⟩ := exists_of_method? isMethod
    have listed : method ∈ classDef.allMethods := by
      rw [ClassDef.allMethods, Option.mem_def.mp isData]
      exact member
    exact all classDef isClass method listed body isBody
  · intro all classDef isClass method isMethod body isBody
    obtain ⟨key, found⟩ := exists_key isClass isMethod
    exact all key body (by rw [body?, found]; exact isBody)

/-- A container is closed if its numbers are in range. -/
theorem InRange.closed (inRange : container.InRange) : container.Closed where
  pools := by
    refine forall_poolRefs_iff.mpr ⟨fun string member => ?_, fun proto member => ?_,
      fun id member => ?_, fun id member => ?_⟩
    · exact leads_long_of_lt (inRange.types string member)
    · obtain ⟨shorty, returnType, parameters⟩ := inRange.protos proto member
      exact Proto.forall_mem_refs_iff.mpr ⟨leads_long_of_lt shorty,
        fun type isParameter => leads_long_of_lt (parameters type isParameter).1,
        leads_long_of_lt returnType⟩
    · obtain ⟨declaringType, type, name⟩ := inRange.fields id member
      exact FieldId.forall_mem_refs_iff.mpr
        ⟨leads_long_of_lt declaringType.1, leads_long_of_lt name, leads_long_of_lt type.1⟩
    · obtain ⟨declaringType, proto, name⟩ := inRange.methods id member
      exact MethodId.forall_mem_refs_iff.mpr
        ⟨leads_long_of_lt declaringType.1, leads_long_of_lt name, leads_long_of_lt proto.1⟩
  methods := fun key method found => by
    obtain ⟨classDef, isClass, data, isData, member⟩ := exists_of_method? found
    exact ((inRange.classes classDef isClass).members data isData).methods method member

namespace Replaced

variable {before after : Container} (patched : Replaced bodies before after)

include patched

theorem method?_eq (key : MethodKey) :
    after.method? key = (before.method? key).map (MemberMethod.withBody · (bodies key)) := by
  rw [← method?_withBodies, method?, method?, patched.classes]

theorem keyedMethods_eq :
    after.keyedMethods =
      before.keyedMethods.map fun (key, method) => (key, method.withBody (bodies key)) := by
  rw [← keyedMethods_withBodies, keyedMethods, keyedMethods, patched.classes]

/-- Methods are called what they were called before. -/
theorem records_eq (closed : before.Closed) :
    after.records =
      before.records.map fun record =>
        { record with body := (bodies record.key).or record.body } := by
  rw [records, records, patched.keyedMethods_eq, List.map_map, List.map_map]
  refine List.map_congr_left fun ⟨key, method⟩ member => ?_
  have inside : method.method.toNat < before.methods.size :=
    closed.methods key method (mem_keyedMethods_iff.mp member)
  have sameNumber : (method.withBody (bodies key)).method = method.method := rfl
  exact patched.recordOf_eq closed (sameNumber ▸ inside) key

/-- A request fits a method with a new body exactly if it fits the method. -/
theorem fits_eq
    (request : Request)
    {record : MethodRecord}
    (member : record ∈ before.records) :
    request.fits { record with body := (bodies record.key).or record.body } =
      request.fits record := by
  obtain ⟨⟨key, method⟩, isListed, rfl⟩ := List.mem_map.mp member
  have hasBody : ((bodies key).or method.body).isSome = method.body.isSome := by
    cases isNew : bodies key with
    | none =>
        rfl
    | some body =>
        obtain ⟨old, isOld, -⟩ := patched.bodied key body isNew
        rw [body?, mem_keyedMethods_iff.mp isListed, Option.bind_some] at isOld
        rw [isOld]
        rfl
  simp only [Request.fits, MethodRecord.hasBody, recordOf, hasBody]

/-- A request finds the method that it found before. -/
theorem target?_eq
    (closed : before.Closed)
    (request : Request) :
    request.target? after =
      (request.target? before).map fun record =>
        { record with body := (bodies record.key).or record.body } := by
  rw [Request.target?, patched.records_eq closed, List.find?_map]
  exact congrArg _ (List.find?_congr fun record member => patched.fits_eq request member)

/-- Where no new body is given, the one before stays. -/
theorem body?_of_none
    {key : MethodKey}
    (kept : bodies key = none) :
    after.body? key = before.body? key := by
  rw [body?, body?, patched.method?_eq, kept, Option.bind_map]
  rfl

/-- A new body stands in the place of the one before. -/
theorem body?_of_new
    {key : MethodKey}
    {old new : Body}
    (isOld : before.body? key = some old)
    (isNew : bodies key = some new) :
    after.body? key = some new := by
  obtain ⟨method, isMethod, -⟩ := Option.bind_eq_some_iff.mp isOld
  rw [body?, patched.method?_eq, isMethod, isNew]
  rfl

/-- Every body is a new one or the one before. -/
theorem body?_cases
    {key : MethodKey}
    {body : Body}
    (found : after.body? key = some body) :
    bodies key = some body ∨ bodies key = none ∧ before.body? key = some body := by
  cases isNew : bodies key with
  | none =>
      exact .inr ⟨rfl, (patched.body?_of_none isNew).symm.trans found⟩
  | some new =>
      obtain ⟨old, isOld, -⟩ := patched.bodied key new isNew
      exact .inl ((patched.body?_of_new isOld isNew).symm.trans found)

/-- Every body has as many arguments as the one before. -/
theorem exists_body?
    {key : MethodKey}
    {body : Body}
    (found : after.body? key = some body) :
    ∃ old, before.body? key = some old ∧ body.ins = old.ins := by
  rcases patched.body?_cases found with isNew | ⟨-, isOld⟩
  · exact patched.bodied key body isNew
  · exact ⟨body, isOld, rfl⟩

/-- A container remains patched when its pools grow. -/
theorem interned
    {next : Container}
    (grown : after.Interned next) :
    Replaced bodies before next :=
  ⟨patched.toExtends.trans grown.toExtends, grown.classes.trans patched.classes,
    grown.hiddenApi.trans patched.hiddenApi, patched.bodied⟩

/-- One more body can be replaced by one that takes as many arguments. -/
theorem setBody
    {key : MethodKey}
    {body old : Body}
    (found : after.body? key = some old)
    (sameIns : body.ins = old.ins) :
    Replaced (Function.update bodies key (some body)) before (after.setBody key (some body)) where
  toExtends := patched.toExtends.trans (after.extends_setBody key (some body))
  classes := classes_setBody patched.classes key body
  hiddenApi := patched.hiddenApi
  bodied := by
    intro other replacement isReplacement
    by_cases same : other = key
    · subst same
      rw [Function.update_self, Option.mem_def, Option.some.injEq] at isReplacement
      subst isReplacement
      obtain ⟨first, isFirst, asMany⟩ := patched.exists_body? found
      exact ⟨first, isFirst, sameIns.trans asMany⟩
    · rw [Function.update_of_ne same] at isReplacement
      exact patched.bodied other replacement isReplacement

/-- A patched container is shaped if all new bodies are. -/
theorem shaped
    (shaped : before.Shaped)
    (newBodies : ∀ key, ∀ body ∈ bodies key, body.Shaped) :
    after.Shaped where
  version := patched.version ▸ shaped.version
  strings := fun string member =>
    (patched.newStrings string member).elim (shaped.strings string) id
  bodies := by
    refine forall_bodies_iff.mpr fun key body found => ?_
    rcases patched.body?_cases found with isNew | ⟨-, isOld⟩
    · exact newBodies key body isNew
    · exact forall_bodies_iff.mp shaped.bodies key body isOld

end Replaced

end Container

end DexPatch
