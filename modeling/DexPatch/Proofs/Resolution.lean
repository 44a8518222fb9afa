import DexPatch.Proofs.Bodies
import DexPatch.Proofs.References

namespace DexPatch

/-!
# What the checks establish

The checks made before an image is laid out succeed exactly if every reference
leads to an entry and fits, all code is complete and every try range can name
its handler.  The container that is then written has all this of itself.
-/

namespace Container

variable {container : Container}

/-- The reference leads to an entry, and its number fits. -/
def Leads (container : Container) (ref : Reference) : Prop :=
  ref.index.toNat < container.poolSize ref.pool ∧ (ref.short → ref.index.toNat < 65536)

theorem checkRef_eq_ok_iff {ref : Reference} :
    container.checkRef ref = .ok () ↔ container.Leads ref := by
  rw [checkRef, Leads]
  split
  · next outside =>
      simp only [reduceCtorEq, false_iff, not_and]
      omega
  · next inside =>
      split
      · next overflow =>
          simp only [reduceCtorEq, false_iff, not_and]
          intro _ fits
          have := fits overflow.1
          omega
      · next noOverflow =>
          simp only [true_iff]
          refine ⟨by omega, fun short => ?_⟩
          exact Nat.lt_of_not_le fun large => noOverflow ⟨short, large⟩

/-- References pass the check exactly if each leads to an entry. -/
theorem checkRefs_eq_ok_iff {refs : List Reference} :
    container.checkRefs refs = .ok () ↔ ∀ ref ∈ refs, container.Leads ref := by
  rw [checkRefs, forM_eq_ok_iff]
  simp only [checkRef_eq_ok_iff]

theorem checkTry_eq_ok_iff
    {list : HandlerList}
    {range : TryRange} :
    checkTry list range = .ok () ↔ range.Placed list := by
  refine ⟨TryRange.placed_of_check, fun ⟨offset, found, small⟩ => ?_⟩
  simp [checkTry, found, small]

theorem checkHandle_eq_ok_iff {handle : MethodHandle} :
    container.checkHandle handle = .ok () ↔
      container.Leads (.brief handle.targetPool handle.target) := by
  rw [checkHandle, then_eq_ok_iff, checkRef_eq_ok_iff]
  simp only [Leads, Reference.long, Reference.brief]
  split
  · next large =>
      simp [throw, throwThe, MonadExceptOf.throw]
      omega
  · next small =>
      simp [pure, Except.pure]
      omega

/-- A body that can be written into a container once it is renumbered, its debug information
apart.  Handlers without a try range are not written. -/
structure BodyFits (container : Container) (renumber : RefMap) (body : Body) : Prop where
  operands :
    ∀ instruction ∈ (split body.code).instructions, ∀ ref ∈ poolOperands instruction,
      container.Leads (ref.renumber renumber)
  complete : (split body.code).rest = []
  handlers :
    body.tries ≠ [] → ∀ handler ∈ body.handlers.map (CatchHandler.mapRefs renumber),
      ∀ ref ∈ handler.refs, container.Leads ref
  placed :
    ∀ range ∈ body.tries,
      range.Placed (.ofHandlers (body.handlers.map (CatchHandler.mapRefs renumber)))

theorem checkBody_eq_ok_iff
    {renumber : RefMap}
    {body : Body} :
    container.checkBody renumber body = .ok () ↔ container.BodyFits renumber body := by
  have operandsFit :
      (∀ ref ∈ ((split body.code).instructions.flatMap poolOperands).map
          (Reference.renumber renumber), container.Leads ref) ↔
        ∀ instruction ∈ (split body.code).instructions, ∀ ref ∈ poolOperands instruction,
          container.Leads (ref.renumber renumber) := by
    simp only [List.forall_mem_map, List.forall_mem_flatMap]
  have guardsFit :
      (if !body.tries.isEmpty then do
        let handlers := body.handlers.map (CatchHandler.mapRefs renumber)
        container.checkRefs (handlers.flatMap CatchHandler.refs)
        body.tries.forM (checkTry (.ofHandlers handlers)) else pure ()) =
          (.ok () : Except EncodeError Unit) ↔
        (body.tries ≠ [] → ∀ handler ∈ body.handlers.map (CatchHandler.mapRefs renumber),
            ∀ ref ∈ handler.refs, container.Leads ref) ∧
          ∀ range ∈ body.tries,
            range.Placed (.ofHandlers (body.handlers.map (CatchHandler.mapRefs renumber))) := by
    cases body.tries with
    | nil =>
        simp [pure, Except.pure]
    | cons range tries =>
        simp only [List.isEmpty_cons, Bool.not_false, if_true, then_eq_ok_iff,
          checkRefs_eq_ok_iff, forM_eq_ok_iff, checkTry_eq_ok_iff, List.forall_mem_flatMap]
        simp
  simp only [checkBody, Split.fault?]
  rw [then_eq_ok_iff, checkRefs_eq_ok_iff, operandsFit]
  cases rest : (split body.code).rest with
  | cons unit units =>
      simp only [List.isEmpty_cons]
      constructor
      · rintro ⟨-, fails⟩
        simp [throw, throwThe, MonadExceptOf.throw, bind, Except.bind] at fails
      · rintro fits
        exact absurd (rest.symm.trans fits.complete) (by simp)
  | nil =>
      simp only [List.isEmpty_nil, if_true]
      constructor
      · rintro ⟨operands, guards⟩
        obtain ⟨handlers, placed⟩ := guardsFit.mp guards
        exact ⟨operands, rest, handlers, placed⟩
      · rintro ⟨operands, -, handlers, placed⟩
        exact ⟨operands, guardsFit.mpr ⟨handlers, placed⟩⟩

/-! ## All checks -/

theorem forall_mem_directories {holds : AnnotationDirectory → Prop} :
    (∀ directory ∈ container.directories, holds directory) ↔
      ∀ classDef ∈ container.classes, ∀ directory ∈ classDef.annotations, holds directory := by
  simp only [directories, List.mem_filterMap, Option.mem_def]
  constructor
  · intro all classDef isClass directory isDirectory
    exact all directory ⟨classDef, isClass, isDirectory⟩
  · rintro all directory ⟨classDef, isClass, isDirectory⟩
    exact all classDef isClass directory isDirectory

theorem forall_mem_memberLists {holds : ClassData → Prop} :
    (∀ data ∈ container.memberLists, holds data) ↔
      ∀ classDef ∈ container.classes, ∀ data ∈ classDef.data, holds data := by
  simp only [memberLists, List.mem_filterMap, Option.mem_def]
  constructor
  · intro all classDef isClass data isData
    exact all data ⟨classDef, isClass, isData⟩
  · rintro all data ⟨classDef, isClass, isData⟩
    exact all classDef isClass data isData

theorem forall_mem_bodiesOf
    {renumber : RefMap}
    {methods : List MemberMethod}
    {holds : Body → Prop} :
    (∀ body ∈ bodiesOf renumber methods, holds body) ↔
      ∀ method ∈ methods, ∀ body ∈ method.body, holds body := by
  simp only [bodiesOf, List.mem_filterMap, Value.mem_sortOn, Option.mem_def]
  constructor
  · intro all method isMethod body isBody
    exact all body ⟨method, isMethod, isBody⟩
  · rintro all body ⟨method, isMethod, isBody⟩
    exact all method isMethod body isBody

theorem forall_mem_allMethods {classDef : ClassDef} {holds : MemberMethod → Prop} :
    (∀ method ∈ classDef.allMethods, holds method) ↔
      ∀ data ∈ classDef.data, ∀ method ∈ data.allMethods, holds method := by
  cases isData : classDef.data with
  | none =>
      simp [ClassDef.allMethods, isData]
  | some data =>
      simp [ClassDef.allMethods, isData]

/-- The bodies that are checked are those of all methods. -/
theorem forall_mem_bodies
    {renumber : RefMap}
    {holds : Body → Prop} :
    (∀ body ∈ container.bodies renumber, holds body) ↔
      ∀ classDef ∈ container.classes, ∀ method ∈ classDef.allMethods,
        ∀ body ∈ method.body, holds body := by
  simp only [bodies, List.forall_mem_flatMap, List.forall_mem_append, forall_mem_bodiesOf,
    forall_mem_memberLists, forall_mem_allMethods, ClassData.allMethods]

theorem forall_mem_getD
    {α β : Type}
    {list : α → List β}
    {option : Option α}
    {holds : β → Prop} :
    (∀ x ∈ (option.map list).getD [], holds x) ↔
      ∀ inside ∈ option, ∀ x ∈ list inside, holds x := by
  cases option <;> simp

/-- What the checks before writing ask of a container and of what it becomes when it is
renumbered, the references inside its pools apart. -/
structure Checked (container numbered : Container) (renumber : RefMap) : Prop where
  parameters :
    ∀ proto ∈ numbered.protos, ∀ type ∈ proto.parameters, numbered.Leads (.brief .type type)
  interfaces :
    ∀ classDef ∈ numbered.classes, ∀ type ∈ classDef.interfaces,
      numbered.Leads (.brief .type type)
  annotatedMembers :
    ∀ classDef ∈ numbered.classes, ∀ directory ∈ classDef.annotations,
      ∀ ref ∈ directory.memberRefs, numbered.Leads ref
  annotations :
    ∀ classDef ∈ numbered.classes, ∀ directory ∈ classDef.annotations,
      ∀ ref ∈ directory.annotationRefs, numbered.Leads ref
  members :
    ∀ classDef ∈ numbered.classes, ∀ data ∈ classDef.data,
      ∀ ref ∈ data.memberRefs, numbered.Leads ref
  debug :
    ∀ classDef ∈ container.classes, ∀ method ∈ classDef.allMethods, ∀ body ∈ method.body,
      ∀ debug ∈ body.debug, ∀ ref ∈ (debug.mapRefs renumber).refs, numbered.Leads ref
  bodies :
    ∀ classDef ∈ container.classes, ∀ method ∈ classDef.allMethods, ∀ body ∈ method.body,
      numbered.BodyFits renumber body
  callSites :
    ∀ callSite ∈ numbered.callSites, ∀ ref ∈ Value.refsItems callSite, numbered.Leads ref
  staticValues :
    ∀ classDef ∈ numbered.classes, ∀ values ∈ classDef.staticValues,
      ∀ ref ∈ Value.refsItems values, numbered.Leads ref
  fields :
    ∀ id ∈ numbered.fields,
      numbered.Leads (.brief .type id.declaringType) ∧ numbered.Leads (.brief .type id.type)
  methods :
    ∀ id ∈ numbered.methods,
      numbered.Leads (.brief .type id.declaringType) ∧ numbered.Leads (.brief .proto id.proto)
  types : ∀ classDef ∈ numbered.classes, numbered.Leads (.long .type classDef.type)
  superclasses :
    ∀ classDef ∈ numbered.classes, ∀ type ∈ classDef.superclass,
      numbered.Leads (.long .type type)
  sourceFiles :
    ∀ classDef ∈ numbered.classes, ∀ string ∈ classDef.sourceFile,
      numbered.Leads (.long .string string)
  handles :
    ∀ handle ∈ numbered.methodHandles,
      numbered.Leads (.brief handle.targetPool handle.target)

/-- References that may be absent lead somewhere if those that are there do. -/
theorem leads_longs_iff
    {pool : Pool}
    {indices : List (Option UInt32)} :
    (∀ ref ∈ Reference.longs pool indices, container.Leads ref) ↔
      ∀ option ∈ indices, ∀ index ∈ option, container.Leads (.long pool index) := by
  simp only [Reference.longs, List.forall_mem_map, List.mem_filterMap, id_eq, Option.mem_def]
  constructor
  · intro leads option member index isIndex
    exact leads index ⟨option, member, isIndex⟩
  · rintro leads index ⟨option, member, isIndex⟩
    exact leads option member index isIndex

/-- The checks succeed exactly on what they ask for. -/
theorem check_eq_ok_iff {renumbering : Renumbering} :
    container.check renumbering = .ok () ↔
      container.Checked (container.renumbered renumbering) renumbering.map := by
  have staticValues {classDef : ClassDef} {holds : Reference → Prop} :
      (∀ ref ∈ Value.refsItems (classDef.staticValues.getD []), holds ref) ↔
        ∀ values ∈ classDef.staticValues, ∀ ref ∈ Value.refsItems values, holds ref := by
    cases classDef.staticValues <;> simp [Value.refsItems]
  simp only [check, then_eq_ok_iff, checkRefs_eq_ok_iff, forM_eq_ok_iff, checkBody_eq_ok_iff,
    checkHandle_eq_ok_iff, List.forall_mem_append, List.forall_mem_map, List.forall_mem_flatMap,
    Array.mem_toList_iff, List.forall_mem_cons, leads_longs_iff, forall_mem_directories,
    forall_mem_memberLists, forall_mem_bodies, forall_mem_getD, staticValues, List.not_mem_nil,
    false_implies, implies_true, and_true]
  constructor
  · rintro ⟨⟨parameters, interfaces⟩, annotatedMembers, annotations, members, debug, bodies,
      callSites, staticValues, fields, methods, classes, handles⟩
    exact
      { parameters, interfaces, annotatedMembers, annotations, members, debug, bodies, callSites
        staticValues, fields, methods
        types := fun classDef isClass => (classes classDef isClass).1.1
        superclasses := fun classDef isClass => (classes classDef isClass).1.2
        sourceFiles := fun classDef isClass => (classes classDef isClass).2
        handles }
  · intro checked
    exact ⟨⟨checked.parameters, checked.interfaces⟩, checked.annotatedMembers,
      checked.annotations, checked.members, checked.debug, checked.bodies, checked.callSites,
      checked.staticValues, checked.fields, checked.methods,
      fun classDef isClass =>
        ⟨⟨checked.types classDef isClass, checked.superclasses classDef isClass⟩,
          checked.sourceFiles classDef isClass⟩,
      checked.handles⟩

/-- A container that is written as it is. -/
structure Representable (container : Container) : Prop extends
    Checked container container RefMap.unchanged where
  pools : ∀ ref ∈ container.poolRefs, container.Leads ref

end Container

end DexPatch
