import DexPatch.Proofs.AppendOnly
import DexPatch.Proofs.Decoded
import DexPatch.Proofs.Growth
import DexPatch.Proofs.Writable

namespace DexPatch

/-!
# Edited containers stay closed

A container that was read refers to entries only: in its pools, in its classes
and in their lists of members.  Interning, replacing bodies and applying
requests keep this in any order, although none of them looks at a number again,
and what the new bodies refer to is there as well.
-/

/-- Something that is done to a container. -/
inductive Edit where
  | intern (wanted : Wanted)
  | body (key : MethodKey) (behavior : Behavior) (form : EmptyListForm)
  | requests (form : EmptyListForm) (requests : List Request)
deriving DecidableEq, Repr

namespace Container

/-- The container after an edit. -/
def edit (container : Container) : Edit → Container
  | .intern wanted => (container.intern wanted).2
  | .body key behavior form => (container.replaceBody key behavior form).2
  | .requests form requests => (container.applyRequests form requests).2

/-- The container after one edit after the other. -/
def edited (container : Container) (edits : List Edit) : Container :=
  edits.foldl edit container

/-! ## Bodies that are put in -/

/-- The body that is put in the place of the one at a key, if this succeeds. -/
def putBodies
    (container : Container)
    (key : MethodKey)
    (behavior : Behavior)
    (form : EmptyListForm) :
    List Body :=
  match container.replaceBody key behavior form with
  | (.ok (), after) => (after.body? key).toList
  | (.error _, _) => []

/-- The bodies that requests put in, each applied to what the ones before have left. -/
def requestedBodies (form : EmptyListForm) (container : Container) : List Request → List Body
  | [] => []
  | request :: rest =>
    let found := request.target? container
    let bodies := found.map fun record => container.putBodies record.key request.behavior form
    bodies.getD [] ++ requestedBodies form (container.applyRequest form request).2 rest

/-- The bodies that edits put in, also those which later edits replace again. -/
def installed (container : Container) : List Edit → List Body
  | [] => []
  | edit :: rest =>
    let bodies :=
      match edit with
      | .intern _ => []
      | .body key behavior form => container.putBodies key behavior form
      | .requests form requests => container.requestedBodies form requests
    bodies ++ (container.edit edit).installed rest

/-! ## Closed containers -/

/-- Every number in the pools, in the classes and in their lists of members is that of an entry. -/
structure Resolved (container : Container) : Prop where
  pools : ∀ ref ∈ container.poolRefs, container.Leads ref
  heads : ∀ classDef ∈ container.classes, ∀ ref ∈ classDef.headRefs, container.Leads ref
  members :
    ∀ classDef ∈ container.classes, ∀ data ∈ classDef.data, ∀ ref ∈ data.memberRefs,
      container.Leads ref

/-- The body is a canned one, and what its code refers to is an entry of the container. -/
structure HasCanned (container : Container) (body : Body) : Prop where
  canned : ∃ form source behavior ins, body = cannedBody form source behavior ins
  operands :
    ∀ instruction ∈ (split body.code).instructions, ∀ ref ∈ poolOperands instruction,
      container.Leads ref

/-- What edits that put in some bodies make of a container: it has grown, and stays closed and shaped
if it was. -/
structure Progress (before after : Container) (installed : List Body) : Prop where
  grown : before.Extends after
  hiddenApi : after.hiddenApi = before.hiddenApi
  resolved : before.Resolved → after.Resolved
  shaped : before.Shaped → after.Shaped
  installed : ∀ body ∈ installed, after.HasCanned body

variable {container before after : Container} {form : EmptyListForm} {behavior : Behavior}

theorem InRange.resolved (inRange : container.InRange) : container.Resolved where
  pools := inRange.closed.pools
  heads := fun classDef isClass => by
    obtain ⟨type, superclass, interfaces, sourceFile, -⟩ := inRange.classes classDef isClass
    simp only [ClassDef.headRefs, List.forall_mem_append, List.forall_mem_cons,
      List.forall_mem_map, Reference.longs, List.mem_filterMap, List.mem_singleton]
    refine ⟨⟨⟨leads_long_of_lt type, ?_⟩, ?_⟩, ?_⟩
    · rintro index ⟨_, rfl, isSuperclass⟩
      exact leads_long_of_lt (superclass index isSuperclass)
    · exact fun index member => ⟨(interfaces index member).1, fun _ => (interfaces index member).2⟩
    · rintro index ⟨_, rfl, isSourceFile⟩
      exact leads_long_of_lt (sourceFile index isSourceFile)
  members := fun classDef isClass data isData => by
    obtain ⟨fields, methods⟩ := (inRange.classes classDef isClass).members data isData
    exact ClassData.forall_memberRefs_iff.mpr
      ⟨fun member listed => leads_long_of_lt (fields member listed),
        fun member listed => leads_long_of_lt (methods member listed)⟩

theorem Resolved.closed (resolved : container.Resolved) : container.Closed where
  pools := resolved.pools
  methods := fun key method found => by
    obtain ⟨classDef, isClass, data, isData, listed⟩ := exists_of_method? found
    have known := data.known_of_leads (resolved.members classDef isClass data isData)
    exact known.methods method listed

/-- New bodies change no number that a class lists. -/
theorem memberRefs_withBodies
    (bodies : MethodKey → Option Body)
    (classIndex : Nat)
    (data : ClassData) :
    (data.withBodies bodies classIndex).memberRefs = data.memberRefs := by
  have split (data : ClassData) :
      data.memberRefs =
        (data.staticFields ++ data.instanceFields).map (fun member => .long .field member.field) ++
          ((data.methods .direct).map (·.method) ++ (data.methods .virtual).map (·.method)).map
            (.long .method) := by
    rw [← List.map_append, List.map_map]
    rfl
  rw [split, split, data.numbers_withBodies, data.numbers_withBodies]
  rfl

/-- A container whose pools have grown and whose bodies may be others stays closed if the pools
do. -/
theorem Resolved.replaced
    {bodies : MethodKey → Option Body}
    (resolved : before.Resolved)
    (replaced : Replaced bodies before after)
    (pools : ∀ ref ∈ after.poolRefs, after.Leads ref) :
    after.Resolved where
  pools := pools
  heads := fun classDef isClass ref refers => by
    rw [replaced.classes] at isClass
    obtain ⟨classIndex, inside, rfl⟩ := List.mem_mapIdx.mp isClass
    exact replaced.toExtends.leads (resolved.heads _ (List.getElem_mem inside) ref refers)
  members := fun classDef isClass data isData ref refers => by
    rw [replaced.classes] at isClass
    obtain ⟨classIndex, inside, rfl⟩ := List.mem_mapIdx.mp isClass
    obtain ⟨old, isOld, rfl⟩ := Option.map_eq_some_iff.mp isData
    rw [memberRefs_withBodies] at refers
    exact replaced.toExtends.leads
      (resolved.members _ (List.getElem_mem inside) old isOld ref refers)

theorem HasCanned.shaped {body : Body} (canned : container.HasCanned body) : body.Shaped := by
  obtain ⟨form, source, behavior, ins, rfl⟩ := canned.canned
  exact shaped_of_plain rfl rfl rfl

theorem Extends.hasCanned
    {body : Body}
    (grown : before.Extends after)
    (canned : before.HasCanned body) :
    after.HasCanned body :=
  ⟨canned.canned, fun instruction member ref refers =>
    grown.leads (canned.operands instruction member ref refers)⟩

namespace Progress

theorem refl (container : Container) : Progress container container [] :=
  ⟨.refl container, rfl, id, id, by simp⟩

theorem trans
    {middle : Container}
    {early late : List Body}
    (first : Progress before middle early)
    (second : Progress middle after late) :
    Progress before after (early ++ late) :=
  ⟨first.grown.trans second.grown, second.hiddenApi.trans first.hiddenApi,
    second.resolved ∘ first.resolved, second.shaped ∘ first.shaped,
    List.forall_mem_append.mpr
      ⟨fun body isEarly => second.grown.hasCanned (first.installed body isEarly),
        second.installed⟩⟩

/-- Interning is progress. -/
theorem of_accrued (accrued : before.Accrued after) : Progress before after [] := by
  have replaced := (Replaced.refl before).interned accrued.interned
  exact ⟨replaced.toExtends, replaced.hiddenApi,
    fun resolved => resolved.replaced replaced (accrued.poolRefs_lead resolved.pools),
    fun shaped => replaced.shaped shaped (by simp), by simp⟩

end Progress

/-! ## New bodies refer to entries -/

/-- The source of the empty list, as an operand. -/
def sourceRef (form : EmptyListForm) (source : UInt32) : Reference :=
  match form with
  | .invoke => .brief .method source
  | .field => .brief .field source

theorem leads_internSource
    (container : Container)
    (form : EmptyListForm)
    (narrow : (container.internSource form).1.toNat < 65536) :
    (container.internSource form).2.Leads (sourceRef form (container.internSource form).1) := by
  cases form with
  | invoke => exact ⟨(container.leads_internMethod _ _ _ _).1, fun _ => narrow⟩
  | field => exact ⟨(container.leads_internField _ _ _).1, fun _ => narrow⟩

theorem accrued_withSource (container : Container) (form : EmptyListForm) (asked : Bool) :
    container.Accrued (container.withSource form asked) := by
  cases asked with
  | false =>
      exact .refl
  | true =>
      cases form with
      | invoke => exact container.accrued_internMethod _ _ _ _
      | field => exact container.accrued_internField _ _ _

/-- A canned body refers to the source of the empty list if its behavior asks for it, and to nothing
else. -/
theorem hasCanned_cannedBody
    {source : UInt16}
    (ins : UInt16)
    (leads : behavior.asksSource = true → container.Leads (sourceRef form source.toUInt32)) :
    container.HasCanned (cannedBody form source behavior ins) := by
  refine ⟨⟨form, source, behavior, ins, rfl⟩, List.forall_mem_flatMap.mp ?_⟩
  cases behavior with
  | constantFalse =>
      exact List.forall_mem_nil _
  | constantTrue =>
      exact List.forall_mem_nil _
  | emptyList =>
      cases form with
      | invoke => exact List.forall_mem_singleton.mpr (leads rfl)
      | field => exact List.forall_mem_singleton.mpr (leads rfl)

/-! ## Edits are progress -/

/-- To put a body in the place of another one is progress. -/
theorem progress_setBody
    {key : MethodKey}
    {old body : Body}
    (isOld : container.body? key = some old)
    (sameIns : body.ins = old.ins)
    (canned : container.HasCanned body) :
    Progress container (container.setBody key (some body))
      ((container.setBody key (some body)).body? key).toList := by
  have replaced := (Replaced.refl container).setBody isOld sameIns
  have there := replaced.body?_of_new isOld (Function.update_self key (some body) fun _ => none)
  refine ⟨replaced.toExtends, replaced.hiddenApi, fun resolved => ?_, fun shaped => ?_, ?_⟩
  · exact resolved.replaced replaced resolved.pools
  · refine replaced.shaped shaped ?_
    rw [Function.forall_update_iff _ fun _ new => ∀ body ∈ new, Body.Shaped body]
    exact ⟨by simpa using canned.shaped, by simp⟩
  · rw [there, Option.toList_some]
    exact List.forall_mem_singleton.mpr (replaced.toExtends.hasCanned canned)

theorem progress_replaceBody
    (container : Container)
    (key : MethodKey)
    (behavior : Behavior)
    (form : EmptyListForm) :
    Progress container (container.replaceBody key behavior form).2
      (container.putBodies key behavior form) := by
  cases growable : container.growableIns key with
  | error reason =>
      have failed : container.replaceBody key behavior form = (.error reason, container) := by
        rw [replaceBody, growable]
      rw [putBodies, failed]
      exact .refl container
  | ok ins =>
      have source := Progress.of_accrued (container.accrued_withSource form behavior.asksSource)
      rw [putBodies, replaceBody_of_growable growable]
      by_cases tooWide : container.SourceTooWide form behavior
      · rw [if_pos tooWide]
        exact source
      · rw [if_neg tooWide]
        obtain ⟨old, isOld, -, rfl⟩ := exists_of_growableIns growable
        have isOldThen :
            (container.withSource form behavior.asksSource).body? key = some old := by
          rw [body?, method?, (container.interned_withSource form behavior.asksSource).classes]
          exact isOld
        refine source.trans (progress_setBody isOldThen rfl (hasCanned_cannedBody _ fun asks => ?_))
        have narrow : (container.internSource form).1.toNat < 65536 :=
          Nat.lt_of_not_le fun wide => tooWide ⟨asks, wide⟩
        rw [toUInt32_toUInt16 narrow, asks]
        exact container.leads_internSource form narrow

/-- A request replaces the body of the method that it finds, if it finds one. -/
theorem applyRequest_snd (container : Container) (form : EmptyListForm) (request : Request) :
    (container.applyRequest form request).2 =
      match request.target? container with
      | none => container
      | some record => (container.replaceBody record.key request.behavior form).2 := by
  cases located : request.target? container with
  | none =>
      rw [applyRequest_of_notFound located]
  | some record =>
      rw [applyRequest, located]
      dsimp only
      split
      · next replaced => rw [replaced]
      · next replaced => rw [replaced]

/-- To apply requests is progress. -/
theorem progress_applyRequests (form : EmptyListForm) (requests : List Request) :
    Progress container (container.applyRequests form requests).2
      (container.requestedBodies form requests) := by
  induction requests generalizing container with
  | nil =>
      exact .refl container
  | cons request rest inductionHypothesis =>
      have first :
          Progress container (container.applyRequest form request).2
            (((request.target? container).map fun record =>
              container.putBodies record.key request.behavior form).getD []) := by
        rw [applyRequest_snd]
        cases request.target? container with
        | none => exact .refl container
        | some record => exact container.progress_replaceBody record.key request.behavior form
      exact first.trans inductionHypothesis

/-- So is any number of edits. -/
theorem progress_edited (edits : List Edit) :
    Progress container (container.edited edits) (container.installed edits) := by
  induction edits generalizing container with
  | nil =>
      exact .refl container
  | cons edit rest inductionHypothesis =>
      refine Progress.trans ?_ inductionHypothesis
      cases edit with
      | intern wanted => exact .of_accrued (container.accrued_intern wanted)
      | body key behavior form => exact container.progress_replaceBody key behavior form
      | requests form requests => exact progress_applyRequests form requests

/-! ## Names are there -/

theorem stringReads_of_lt
    {index : UInt32}
    (inside : index.toNat < container.strings.size) :
    container.StringReads index (container.string index) := by
  have found := Array.getElem?_eq_getElem inside
  exact ⟨_, found, by rw [string, found]⟩

theorem Closed.typeReads_of_lt
    (closed : container.Closed)
    {index : UInt32}
    (inside : index.toNat < container.types.size) :
    container.TypeReads index (container.typeName index) := by
  have found := Array.getElem?_eq_getElem inside
  rw [typeName, found]
  exact ⟨_, found, stringReads_of_lt (closed.string_lt found)⟩

/-- The names in the record of a method are those of entries. -/
theorem Closed.methodReads_of_mem
    (closed : container.Closed)
    {record : MethodRecord}
    (member : record ∈ container.records) :
    container.MethodReads record.method record.declaringType record.name record.returnType
      record.parameterTypes := by
  obtain ⟨⟨key, method⟩, isListed, rfl⟩ := List.mem_map.mp member
  have found :=
    Array.getElem?_eq_getElem (closed.methods key method (mem_keyedMethods_iff.mp isListed))
  obtain ⟨declaringInside, nameInside, protoInside⟩ := closed.parts_lt found
  have foundProto := Array.getElem?_eq_getElem protoInside
  obtain ⟨returnInside, parametersInside⟩ := closed.types_lt foundProto
  simp only [recordOf, found, Option.bind_some, foundProto]
  refine ⟨_, found, closed.typeReads_of_lt declaringInside, stringReads_of_lt nameInside, _,
    foundProto, closed.typeReads_of_lt returnInside, ?_⟩
  rw [List.forall₂_map_right_iff, List.forall₂_same]
  exact fun type isParameter => closed.typeReads_of_lt (parametersInside type isParameter)

/-- Whatever is done to a container that was read, each number in its pools and classes stays the
number of an entry.  So all methods have names that are there, and whatever a new body refers to is
there as well. -/
theorem edited_resolved
    {image : Bytes}
    (decoded : decode image = .ok container)
    (edits : List Edit) :
    (container.edited edits).Resolved ∧
      (∀ record ∈ (container.edited edits).records,
          (container.edited edits).MethodReads record.method record.declaringType record.name
            record.returnType record.parameterTypes) ∧
        ∀ body ∈ container.installed edits, (container.edited edits).HasCanned body := by
  have progress : Progress container (container.edited edits) (container.installed edits) :=
    progress_edited edits
  have resolved := progress.resolved (decode_spec decoded).2.1.resolved
  exact ⟨resolved, fun record => resolved.closed.methodReads_of_mem, progress.installed⟩

/-- Two new bodies, each with a source of the empty list, between other entries that are new. -/
theorem edited_resolved_dangling :
    let edits :=
      [Edit.intern (.field "LC;" "x" "Lx;"),
        .body { classIndex := 0, kind := .virtual, position := 1 } .emptyList .field,
        .requests .invoke [.unqualified "a" .emptyList, .unqualified "c" .constantTrue]]
    decode dangling.image = .ok dangling ∧
      (dangling.installed edits).length = 2 ∧
        ∀ body ∈ dangling.installed edits, (dangling.edited edits).HasCanned body := by
  intro edits
  have twice : (dangling.installed edits).length = 2 := by decide +kernel
  exact ⟨decode_dangling, twice, (edited_resolved decode_dangling edits).2.2⟩

end Container

end DexPatch
