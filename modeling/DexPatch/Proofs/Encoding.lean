import DexPatch.Proofs.CanonicalLists
import DexPatch.Proofs.RoundTrip

namespace DexPatch

/-!
# Encoding

Encoding a container succeeds exactly if its references pass the checks, and
gives the image of its canonical form: pools in canonical order, references
following their entries, lists in order.  An image of a shaped container is
read back as this canonical form.
-/

/-! ## Shapes survive renumbering -/

theorem DebugOp.Shaped.mapRefs
    {op : DebugOp}
    (shaped : op.Shaped)
    (renumber : RefMap) :
    (op.mapRefs renumber).Shaped := by
  cases op <;> exact shaped

theorem CatchHandler.Shaped.mapRefs
    {handler : CatchHandler}
    (shaped : handler.Shaped)
    (renumber : RefMap) :
    (handler.mapRefs renumber).Shaped := by
  intro empty
  exact shaped (List.map_eq_nil_iff.mp empty)

theorem Body.Shaped.mapRefs
    {body : Body}
    (shaped : body.Shaped)
    (renumber : RefMap) :
    (body.mapRefs renumber).Shaped where
  steps := by
    intro debug isDebug
    obtain ⟨old, isOld, rfl⟩ := Option.map_eq_some_iff.mp isDebug
    exact List.forall_mem_map.mpr fun op isOp => (shaped.steps old isOld op isOp).mapRefs renumber
  fewTries := shaped.fewTries
  handlers :=
    List.forall_mem_map.mpr fun handler isHandler =>
      (shaped.handlers handler isHandler).mapRefs renumber
  unguarded := fun empty => by
    have none := shaped.unguarded empty
    simp [Body.mapRefs, none]

namespace Container

variable {container : Container}

/-- The container in canonical order throughout. -/
def canonical (container : Container) : Container :=
  (container.renumbered (Renumbering.ofContainer container)).arranged

/-- Encoding succeeds exactly if all checks do, with the image of the canonical form. -/
theorem encode_eq_ok_iff {image : Bytes} :
    container.encode = .ok image ↔
      (∀ ref ∈ container.poolRefs, container.Leads ref) ∧
        container.Checked (container.renumbered (Renumbering.ofContainer container))
            (Renumbering.ofContainer container).map ∧
          container.canonical.image = image := by
  rw [encode, then_eq_ok_iff, checkRefs_eq_ok_iff, then_eq_ok_iff, check_eq_ok_iff]
  simp [pure, Except.pure, canonical]

/-- A container that passes both checks is encoded. -/
theorem encode_of_checks
    (pools : container.checkRefs container.poolRefs = .ok ())
    (passes : container.check (Renumbering.ofContainer container) = .ok ()) :
    container.encode = .ok container.canonical.image :=
  encode_eq_ok_iff.mpr ⟨checkRefs_eq_ok_iff.mp pools, check_eq_ok_iff.mp passes, rfl⟩

/-- The pools of the canonical form are as large as those of the container. -/
theorem poolSize_canonical (container : Container) (pool : Pool) :
    container.canonical.poolSize pool = container.poolSize pool :=
  (poolSize_arranged pool).trans
    (poolSize_renumbered (Renumbering.covers_ofContainer container) pool)

theorem classes_canonical :
    container.canonical.classes =
      container.classes.map fun classDef =>
        (classDef.mapRefs (Renumbering.ofContainer container).map).arranged := by
  show (container.classes.map _).map ClassDef.arranged = _
  rw [List.map_map]
  rfl

/-- The bodies of the canonical form are the renumbered bodies. -/
theorem forall_bodies_canonical {holds : Body → Prop} :
    (∀ classDef ∈ container.canonical.classes, ∀ method ∈ classDef.allMethods,
        ∀ body ∈ method.body, holds body) ↔
      ∀ classDef ∈ container.classes, ∀ method ∈ classDef.allMethods, ∀ body ∈ method.body,
        holds (body.mapRefs (Renumbering.ofContainer container).map) := by
  rw [← forall_bodies_renumbered]
  simp only [canonical, arranged, List.forall_mem_map, ClassDef.mem_allMethods_arranged]

/-- The canonical form of a shaped container is shaped. -/
theorem Shaped.canonical (shaped : container.Shaped) : container.canonical.Shaped where
  version := shaped.version
  strings := by
    intro string member
    have covers := (Renumbering.covers_ofContainer container).strings
    refine shaped.strings string (Array.mem_toList_iff.mp (covers.arrange_perm.mem_iff.mp ?_))
    exact Array.mem_toList_iff.mpr member
  bodies :=
    forall_bodies_canonical.mpr fun classDef isClass method isMethod body isBody =>
      (shaped.bodies classDef isClass method isMethod body isBody).mapRefs _

/-! ## Pools fit if the image does -/

theorem WrittenIn.poolSize_lt
    {image : Bytes}
    (written : container.WrittenIn image)
    (fits : image.size < 4294967296) :
    container.strings.size < 4294967296 ∧ container.types.size < 4294967296 ∧
      container.protos.size < 4294967296 ∧ container.fields.size < 4294967296 ∧
        container.methods.size < 4294967296 := by
  obtain ⟨strings, types⟩ := written.pools_fit fits
  have protos := written.tables.protos.le_size
  have fields := written.tables.fields.le_size
  have methods := written.tables.methods.le_size
  rw [length_flatMap_of_width (length_protoEntry container), Array.length_toList] at protos
  rw [length_flatMap_of_width length_fieldEntry, Array.length_toList] at fields
  rw [length_flatMap_of_width length_methodEntry, Array.length_toList] at methods
  omega

/-! ## What is written as it is can be read back -/

theorem mem_longs
    {pool : Pool}
    {indices : List (Option UInt32)}
    {index : UInt32}
    (member : some index ∈ indices) :
    Reference.long pool index ∈ Reference.longs pool indices :=
  List.mem_map_of_mem (List.mem_filterMap.mpr ⟨some index, member, rfl⟩)

/-- The numbers that debug information may leave out are those of strings and types. -/
theorem exists_ref_of_mem_options
    {debug : DebugInfo}
    {index : UInt32}
    (member : some index ∈ debug.parameterNames ++ debug.ops.flatMap DebugOp.options) :
    .long .string index ∈ debug.refs ∨ .long .type index ∈ debug.refs := by
  simp only [DebugInfo.refs, List.mem_append, List.mem_flatMap]
  rcases List.mem_append.mp member with isName | isOption
  · exact .inl (.inl (mem_longs isName))
  · obtain ⟨op, isOp, inside⟩ := List.mem_flatMap.mp isOption
    have refers : .long .string index ∈ op.refs ∨ .long .type index ∈ op.refs := by
      cases op with
      | startLocal register name type =>
          rcases List.mem_cons.mp inside with same | isType
          · exact .inl (List.mem_append_left _ (mem_longs (same ▸ List.mem_singleton_self _)))
          · exact .inr (List.mem_append_right _ (mem_longs isType))
      | startLocalExtended register name type signature =>
          rcases List.mem_cons.mp inside with same | others
          · exact .inl (List.mem_append_left _
              (List.mem_append_left _ (mem_longs (same ▸ List.mem_singleton_self _))))
          · rcases List.mem_cons.mp others with same | isSignature
            · exact .inr (List.mem_append_left _
                (List.mem_append_right _ (mem_longs (same ▸ List.mem_singleton_self _))))
            · exact .inl (List.mem_append_right _ (mem_longs isSignature))
      | setFile name =>
          exact .inl (mem_longs inside)
      | _ =>
          exact absurd inside (List.not_mem_nil)
    exact refers.imp (fun isString => .inr ⟨op, isOp, isString⟩)
      fun isType => .inr ⟨op, isOp, isType⟩

/-- No number of a string or a type of a small pool is the one that stands for none. -/
theorem presentable_of_leads
    {debug : DebugInfo}
    (fewStrings : container.strings.size < 4294967296)
    (fewTypes : container.types.size < 4294967296)
    (leads : ∀ ref ∈ debug.refs, container.Leads ref) :
    Presentable (debug.parameterNames ++ debug.ops.flatMap DebugOp.options) := by
  intro member
  have value : (0xffffffff : UInt32).toNat = 4294967295 := rfl
  rcases exists_ref_of_mem_options member with isString | isType
  · have inside : (0xffffffff : UInt32).toNat < container.strings.size := (leads _ isString).1
    omega
  · have inside : (0xffffffff : UInt32).toNat < container.types.size := (leads _ isType).1
    omega

/-- A container that is written as it is can be read back, if it is shaped. -/
theorem Representable.readable
    (representable : container.Representable)
    (shaped : container.Shaped)
    (fewStrings : container.strings.size < 4294967296)
    (fewTypes : container.types.size < 4294967296) :
    container.Readable := by
  obtain ⟨types, protos, fields, methods⟩ := forall_poolRefs_iff.mp representable.pools
  have brief {pool : Pool} {index : UInt32} (leads : container.Leads (.brief pool index)) :
      index.toNat < container.poolSize pool ∧ index.toNat < 65536 :=
    ⟨leads.1, leads.2 rfl⟩
  have unchangedHandlers (body : Body) :
      body.handlers.map (CatchHandler.mapRefs RefMap.unchanged) = body.handlers :=
    map_eq_self fun handler _ => handler.mapRefs_unchanged
  refine
    { version := shaped.version, strings := shaped.strings
      types := fun string member => (types string member).1
      protos := fun proto member => ?_, fields := fun id member => ?_
      methods := fun id member => ?_, classes := fun classDef member => ?_
      bodies := fun classDef isClass method isMethod body isBody => ?_
      handles := fun handle member => (brief (representable.handles handle member)).2 }
  · obtain ⟨shorty, -, returnType⟩ := Proto.forall_mem_refs_iff.mp (protos proto member)
    exact
      { shorty := shorty.1, returnType := returnType.1
        parameters := fun type isParameter =>
          brief (representable.parameters proto member type isParameter) }
  · exact
      { declaringType := brief (representable.fields id member).1
        type := brief (representable.fields id member).2
        name := (FieldId.forall_mem_refs_iff.mp (fields id member)).2.1.1 }
  · exact
      { declaringType := brief (representable.methods id member).1
        proto := brief (representable.methods id member).2
        name := (MethodId.forall_mem_refs_iff.mp (methods id member)).2.1.1 }
  · have members (data : ClassData) (isData : data ∈ classDef.data) :=
      ClassData.forall_memberRefs_iff.mp (representable.members classDef member data isData)
    exact
      { type := (representable.types classDef member).1
        superclass := fun type isType => (representable.superclasses classDef member type isType).1
        interfaces := fun type isType => brief (representable.interfaces classDef member type isType)
        sourceFile := fun string isString =>
          (representable.sourceFiles classDef member string isString).1
        members := fun data isData =>
          { fields := fun field isField => ((members data isData).1 field isField).1
            methods := fun method isMethod => ((members data isData).2 method isMethod).1 } }
  · have fits := representable.bodies classDef isClass method isMethod body isBody
    have placed := fits.placed
    rw [unchangedHandlers] at placed
    refine ⟨shaped.bodies classDef isClass method isMethod body isBody, placed, ?_⟩
    intro debug isDebug
    have leads := representable.debug classDef isClass method isMethod body isBody debug isDebug
    rw [DebugInfo.mapRefs_unchanged] at leads
    exact presentable_of_leads fewStrings fewTypes leads

/-! ## Images of encoded containers -/

/-- The pools of a container are as large as those of its canonical form. -/
theorem numbered_of_image
    (fits : container.canonical.image.size < 4294967296) :
    container.Numbered := by
  obtain ⟨strings, types, protos, fields, methods⟩ :=
    container.canonical.writtenIn_image.poolSize_lt fits
  have strings' := container.poolSize_canonical .string
  have types' := container.poolSize_canonical .type
  have protos' := container.poolSize_canonical .proto
  have fields' := container.poolSize_canonical .field
  have methods' := container.poolSize_canonical .method
  simp only [poolSize] at strings' types' protos' fields' methods'
  constructor <;> omega

/-- What is encoded is written as its canonical form is. -/
theorem representable_of_encode
    {image : Bytes}
    (encoded : container.encode = .ok image) :
    container.canonical.image = image ∧ container.canonical.Representable := by
  obtain ⟨pools, checked, rfl⟩ := encode_eq_ok_iff.mp encoded
  exact ⟨rfl,
    (checked.representable (Renumbering.covers_ofContainer container) pools).arranged⟩

theorem readable_of_encode
    {image : Bytes}
    (encoded : container.encode = .ok image)
    (fits : image.size < 4294967296)
    (shaped : container.Shaped) :
    container.canonical.image = image ∧ container.canonical.Readable := by
  obtain ⟨rfl, representable⟩ := representable_of_encode encoded
  obtain ⟨strings, types, -⟩ := container.canonical.writtenIn_image.poolSize_lt fits
  exact ⟨rfl, representable.readable shaped.canonical strings types⟩

/-- An image of a shaped container is read back as its canonical form. -/
theorem decode_of_encode
    {image : Bytes}
    (encoded : container.encode = .ok image)
    (fits : image.size < 4294967296)
    (shaped : container.Shaped)
    (hiddenApi : ∀ blob ∈ container.hiddenApi, ShapedHiddenApi blob) :
    decode image = .ok container.canonical := by
  obtain ⟨rfl, readable⟩ := readable_of_encode encoded fits shaped
  exact decode_image readable hiddenApi fits

end Container

end DexPatch
