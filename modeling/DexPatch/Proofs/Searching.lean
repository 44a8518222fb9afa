import DexPatch.Proofs.Ascii
import DexPatch.Proofs.Independence
import DexPatch.Proofs.Monotone

namespace DexPatch

/-!
# Searches in the canonical form

The canonical form of a container has the same names at other numbers.  What a
search has found in the container it finds in the canonical form, and a request
finds the same method there if the methods of each class are in place already.
-/

/-- The pool that the source of the empty list is in. -/
def EmptyListForm.sourcePool : EmptyListForm → Pool
  | .invoke => .method
  | .field => .field

theorem ClassDef.data_arranged_mapRefs (renumber : RefMap) (classDef : ClassDef) :
    (classDef.mapRefs renumber).arranged.data =
      classDef.data.map fun data => (data.mapRefs renumber).arranged :=
  Option.map_map _ _ _

/-- Methods whose numbers are in order stay where they are. -/
theorem methods_arranged_mapRefs
    {renumber : RefMap}
    {data : ClassData}
    {kind : MethodKind}
    (inPlace :
      (data.methods kind).Pairwise fun first second =>
        renumber .method first.method ≤ renumber .method second.method) :
    (data.mapRefs renumber).arranged.methods kind =
      (data.methods kind).map (MemberMethod.mapRefs renumber) := by
  have sorted :
      ((data.methods kind).map (MemberMethod.mapRefs renumber)).Pairwise fun first second =>
        first.method ≤ second.method :=
    List.pairwise_map.mpr inPlace
  cases kind with
  | direct => exact sortOn_of_pairwise _ sorted
  | virtual => exact sortOn_of_pairwise _ sorted

namespace Container

/-! ## Searches -/

section Searches

variable {container : Container} (numbered : container.Numbered)

include numbered

/-- The first string that reads as an ASCII text stays the first one. -/
theorem findString?_canonical
    {text : String}
    (ascii : IsAscii text.toList)
    {index : UInt32}
    (found : container.findString? text = some index) :
    container.canonical.findString? text =
      some ((Renumbering.ofContainer container).map .string index) := by
  have moved :=
    Numbering.findIdx?_arrange_map numbered.strings Renumbering.stringKey id (·.reads text)
      (fun _ => rfl)
      (fun first second isFirst isSecond => by
        rw [Renumbering.stringKey, Renumbering.stringKey,
          first.units_of_text ascii (eq_of_beq isFirst),
          second.units_of_text ascii (eq_of_beq isSecond)])
      found
  rwa [Array.map_id] at moved

/-- The first type with an ASCII descriptor stays the first one. -/
theorem findType?_canonical
    {descriptor : String}
    (ascii : IsAscii descriptor.toList)
    {index : UInt32}
    (found : container.findType? descriptor = some index) :
    container.canonical.findType? descriptor =
      some ((Renumbering.ofContainer container).map .type index) := by
  have covers := Renumbering.covers_ofContainer container
  have injective := map_injective covers numbered .string
  rw [findType?_eq] at found ⊢
  obtain ⟨string, isString, isType⟩ := Option.bind_eq_some_iff.mp found
  rw [findString?_canonical numbered ascii isString, Option.bind_some]
  refine Numbering.findIdx?_arrange_map numbered.types _ _ _ (fun other => ?_)
    (fun first second isFirst isSecond => ?_) isType
  · exact Bool.eq_iff_iff.mpr (by simp [injective.eq_iff])
  · rw [eq_of_beq isFirst, eq_of_beq isSecond]

/-- The first types with ASCII descriptors stay the first ones. -/
theorem findTypes?_canonical
    {descriptors : List String}
    (ascii : ∀ descriptor ∈ descriptors, IsAscii descriptor.toList)
    {indices : List UInt32}
    (found : container.findTypes? descriptors = some indices) :
    container.canonical.findTypes? descriptors =
      some (indices.map ((Renumbering.ofContainer container).map .type)) := by
  induction descriptors generalizing indices with
  | nil =>
      obtain rfl := Option.some.inj found
      rfl
  | cons descriptor rest inductionHypothesis =>
      obtain ⟨asciiFirst, asciiRest⟩ := List.forall_mem_cons.mp ascii
      obtain ⟨type, isType, others⟩ := Option.bind_eq_some_iff.mp found
      obtain ⟨types, areTypes, isAll⟩ := Option.bind_eq_some_iff.mp others
      obtain rfl := Option.some.inj isAll
      rw [findTypes?, findType?_canonical numbered asciiFirst isType, Option.bind_some,
        inductionHypothesis asciiRest areTypes]
      rfl

/-- The first prototype with ASCII descriptors stays the first one. -/
theorem findProto?_canonical
    {returnType : String}
    {parameters : List String}
    (asciiReturn : IsAscii returnType.toList)
    (ascii : ∀ descriptor ∈ parameters, IsAscii descriptor.toList)
    {index : UInt32}
    (found : container.findProto? returnType parameters = some index) :
    container.canonical.findProto? returnType parameters =
      some ((Renumbering.ofContainer container).map .proto index) := by
  have covers := Renumbering.covers_ofContainer container
  have injective := map_injective covers numbered .type
  obtain ⟨returned, isReturned, others⟩ := Option.bind_eq_some_iff.mp found
  obtain ⟨types, areTypes, isProto⟩ := Option.bind_eq_some_iff.mp others
  rw [findProto?, findType?_canonical numbered asciiReturn isReturned, Option.bind_some,
    findTypes?_canonical numbered ascii areTypes, Option.bind_some]
  refine Numbering.findIdx?_arrange_map numbered.protos _ _ _ (fun other => ?_)
    (fun first second isFirst isSecond => ?_) isProto
  · refine Bool.eq_iff_iff.mpr ?_
    simp [Proto.mapRefs, injective.eq_iff, (List.map_injective_iff.mpr injective).eq_iff]
  · simp only [Bool.and_eq_true, beq_iff_eq] at isFirst isSecond
    rw [isFirst.1, isFirst.2, isSecond.1, isSecond.2]

/-- The first field with an ASCII class, name and type stays the first one. -/
theorem findField?_canonical
    {declaringType name type : String}
    (asciiDeclaring : IsAscii declaringType.toList)
    (asciiName : IsAscii name.toList)
    (asciiType : IsAscii type.toList)
    {index : UInt32}
    (found : container.findField? declaringType name type = some index) :
    container.canonical.findField? declaringType name type =
      some ((Renumbering.ofContainer container).map .field index) := by
  have covers := Renumbering.covers_ofContainer container
  have injective (pool : Pool) := map_injective covers numbered pool
  obtain ⟨declaring, isDeclaring, others⟩ := Option.bind_eq_some_iff.mp found
  obtain ⟨typeIndex, isType, others⟩ := Option.bind_eq_some_iff.mp others
  obtain ⟨nameIndex, isName, isField⟩ := Option.bind_eq_some_iff.mp others
  rw [findField?, findType?_canonical numbered asciiDeclaring isDeclaring, Option.bind_some,
    findType?_canonical numbered asciiType isType, Option.bind_some,
    findString?_canonical numbered asciiName isName, Option.bind_some]
  refine Numbering.findIdx?_arrange_map numbered.fields _ _ _ (fun other => ?_)
    (fun first second isFirst isSecond => ?_) isField
  · refine Bool.eq_iff_iff.mpr ?_
    obtain ⟨_, _, _⟩ := other
    simp [FieldId.mapRefs, (injective .type).eq_iff, (injective .string).eq_iff]
  · rw [eq_of_beq isFirst, eq_of_beq isSecond]

/-- The first method with an ASCII class, name and prototype stays the first one. -/
theorem findMethod?_canonical
    {declaringType name returnType : String}
    {parameters : List String}
    (asciiDeclaring : IsAscii declaringType.toList)
    (asciiName : IsAscii name.toList)
    (asciiReturn : IsAscii returnType.toList)
    (ascii : ∀ descriptor ∈ parameters, IsAscii descriptor.toList)
    {index : UInt32}
    (found : container.findMethod? declaringType name returnType parameters = some index) :
    container.canonical.findMethod? declaringType name returnType parameters =
      some ((Renumbering.ofContainer container).map .method index) := by
  have covers := Renumbering.covers_ofContainer container
  have injective (pool : Pool) := map_injective covers numbered pool
  obtain ⟨declaring, isDeclaring, others⟩ := Option.bind_eq_some_iff.mp found
  obtain ⟨protoIndex, isProto, others⟩ := Option.bind_eq_some_iff.mp others
  obtain ⟨nameIndex, isName, isMethod⟩ := Option.bind_eq_some_iff.mp others
  rw [findMethod?, findType?_canonical numbered asciiDeclaring isDeclaring, Option.bind_some,
    findProto?_canonical numbered asciiReturn ascii isProto, Option.bind_some,
    findString?_canonical numbered asciiName isName, Option.bind_some]
  refine Numbering.findIdx?_arrange_map numbered.methods _ _ _ (fun other => ?_)
    (fun first second isFirst isSecond => ?_) isMethod
  · refine Bool.eq_iff_iff.mpr ?_
    obtain ⟨_, _, _⟩ := other
    simp [MethodId.mapRefs, (injective .type).eq_iff, (injective .string).eq_iff,
      (injective .proto).eq_iff]
  · rw [eq_of_beq isFirst, eq_of_beq isSecond]

/-- The source of the empty list stays the first one. -/
theorem findSource?_canonical
    {form : EmptyListForm}
    {index : UInt32}
    (found : container.findSource? form = some index) :
    container.canonical.findSource? form =
      some ((Renumbering.ofContainer container).map form.sourcePool index) := by
  cases form with
  | invoke =>
      exact findMethod?_canonical numbered (by decide +kernel) (by decide +kernel)
        (by decide +kernel) (by simp) found
  | field =>
      exact findField?_canonical numbered (by decide +kernel) (by decide +kernel)
        (by decide +kernel) found

end Searches

/-! ## Methods in place -/

/-- The methods of all classes stand in the order of the numbers that they get. -/
def InPlace (container : Container) (renumber : RefMap) : Prop :=
  ∀ classDef ∈ container.classes, ∀ data ∈ classDef.data, ∀ kind,
    (data.methods kind).Pairwise fun first second =>
      renumber .method first.method ≤ renumber .method second.method

section Located

variable {container : Container}

theorem follows_canonical (numbered : container.Numbered) :
    container.Follows (Renumbering.ofContainer container).map container.canonical :=
  have follows := follows_renumbered (Renumbering.covers_ofContainer container) numbered
  ⟨follows.strings, follows.types, follows.protos, follows.fields, follows.methods⟩

variable (inPlace : container.InPlace (Renumbering.ofContainer container).map)

include inPlace

theorem keyedMethods_canonical :
    container.canonical.keyedMethods =
      container.keyedMethods.map fun entry =>
        (entry.1, entry.2.mapRefs (Renumbering.ofContainer container).map) := by
  rw [keyedMethods, classes_canonical, List.zipIdx_map, List.flatMap_map, keyedMethods,
    List.map_flatMap]
  refine List.flatMap_congr fun entry member => ?_
  have isClass := List.fst_mem_of_mem_zipIdx member
  dsimp only [Prod.map]
  rw [ClassDef.data_arranged_mapRefs]
  cases isData : entry.1.data with
  | none =>
      rfl
  | some data =>
      have arranged (kind : MethodKind) :=
        methods_arranged_mapRefs (inPlace entry.1 isClass data isData kind)
      simp only [Option.map_some, ClassData.keyedMethods, arranged, List.zipIdx_map,
        List.map_append, List.map_map]
      rfl

theorem method?_canonical (key : MethodKey) :
    container.canonical.method? key =
      (container.method? key).map
        (MemberMethod.mapRefs (Renumbering.ofContainer container).map) := by
  rw [method?, method?, classes_canonical, List.getElem?_map]
  cases isClass : container.classes[key.classIndex]? with
  | none =>
      rfl
  | some classDef =>
      rw [Option.map_some]
      dsimp only
      rw [ClassDef.data_arranged_mapRefs]
      cases isData : classDef.data with
      | none =>
          rfl
      | some data =>
          rw [Option.map_some]
          dsimp only
          rw [methods_arranged_mapRefs
            (inPlace classDef (List.mem_of_getElem? isClass) data isData key.kind),
            List.getElem?_map]

theorem body?_canonical (key : MethodKey) :
    container.canonical.body? key =
      (container.body? key).map (Body.mapRefs (Renumbering.ofContainer container).map) := by
  rw [body?, body?, method?_canonical inPlace, Option.bind_map, Option.map_bind]
  rfl

/-- A frame can grow if it could before. -/
theorem growableIns_canonical (key : MethodKey) :
    container.canonical.growableIns key = container.growableIns key := by
  rw [growableIns, growableIns, method?_canonical inPlace]
  cases isMethod : container.method? key with
  | none =>
      rfl
  | some method =>
      obtain ⟨_, _, body⟩ := method
      cases body <;> rfl

variable (closed : container.Closed) (numbered : container.Numbered)

include closed numbered

/-- A request finds the method that it found before. -/
theorem target?_canonical (request : Request) :
    request.target? container.canonical =
      (request.target? container).map
        (MethodRecord.mapRefs (Renumbering.ofContainer container).map) := by
  have records :
      container.canonical.records =
        container.records.map
          (MethodRecord.mapRefs (Renumbering.ofContainer container).map) := by
    rw [Container.records, Container.records, keyedMethods_canonical inPlace, List.map_map,
      List.map_map]
    refine List.map_congr_left fun entry member => ?_
    exact (follows_canonical numbered).recordOf_eq closed
      (closed.methods entry.1 entry.2 (mem_keyedMethods_iff.mp member)) entry.1
  have sameFit :
      request.fits ∘ MethodRecord.mapRefs (Renumbering.ofContainer container).map =
        request.fits := by
    funext record
    simp [Request.fits, MethodRecord.mapRefs, MethodRecord.hasBody]
  rw [Request.target?, records, List.find?_map, sameFit]
  rfl

theorem asksSource_canonical (request : Request) :
    container.canonical.asksSource request = container.asksSource request := by
  rw [asksSource, asksSource, target?_canonical inPlace closed numbered]
  cases request.target? container with
  | none =>
      rfl
  | some record =>
      rw [Option.map_some, Option.any_some, Option.any_some, growableIns_canonical inPlace]
      rfl

theorem behaviorAt?_canonical
    (key : MethodKey)
    (request : Request)
    (outcome : Outcome) :
    container.canonical.behaviorAt? key request outcome =
      container.behaviorAt? key request outcome := by
  rw [behaviorAt?, behaviorAt?, target?_canonical inPlace closed numbered, Option.any_map]
  rfl

end Located

end Container

end DexPatch
