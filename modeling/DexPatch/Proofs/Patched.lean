import DexPatch.Patch.Run
import DexPatch.Proofs.Canonical
import DexPatch.Proofs.Replacement

namespace DexPatch

/-!
# Patch runs

A run changes the bodies of the methods that its requests find, each to what
the last request for it asks for, and nothing else.  What it writes says so
too: the image is read back with every reference following its entry.
-/

namespace Container

/-- The behavior that a request gives the method at a key by ending in an outcome. -/
def behaviorAt?
    (container : Container)
    (key : MethodKey)
    (request : Request)
    (outcome : Outcome) :
    Option Behavior :=
  if outcome.isPatched && (request.target? container).any (·.key == key) then
    some request.behavior
  else
    none

/-- The behavior that the method at a key has in the end: that of the last request which finds it
and ends with a new body. -/
def lastBehavior?
    (container : Container)
    (requests : List Request)
    (outcomes : List Outcome)
    (key : MethodKey) :
    Option Behavior :=
  (requests.zip outcomes).reverse.findSome? fun (request, outcome) =>
    container.behaviorAt? key request outcome

/-- The new body at a key: none without a behavior, and otherwise the canned one for a method with
as many arguments as there were. -/
def NewBody
    (form : EmptyListForm)
    (before after : Container)
    (key : MethodKey) :
    Option Behavior → Option Body → Prop
  | none, body => body = none
  | some behavior, body =>
      ∃ old new,
        before.body? key = some old ∧ body = some new ∧
          after.CannedBody form behavior old.ins new

variable {form : EmptyListForm} {before after : Container}

theorem NewBody.of_extends
    {next : Container}
    (grown : after.Extends next)
    {key : MethodKey}
    {behavior : Option Behavior}
    {body : Option Body}
    (isNew : NewBody form before after key behavior body) :
    NewBody form before next key behavior body := by
  cases behavior with
  | none =>
      exact isNew
  | some behavior =>
      obtain ⟨old, new, isOld, isBody, canned⟩ := isNew
      exact ⟨old, new, isOld, isBody, grown.cannedBody canned⟩

theorem NewBody.shaped
    {key : MethodKey}
    {behavior : Option Behavior}
    {newBody : Option Body}
    (isNew : NewBody form before after key behavior newBody) :
    ∀ body ∈ newBody, body.Shaped := by
  cases behavior with
  | none =>
      obtain rfl : newBody = none := isNew
      simp
  | some behavior =>
      obtain ⟨old, new, -, rfl, canned⟩ := isNew
      simpa using canned.shaped

/-! ## Requests one after the other -/

/-- A request that ends with a new body gives it to the method that it finds. -/
theorem behaviorAt?_of_patched
    {request : Request}
    {record : MethodRecord}
    {outcome : Outcome}
    (found : request.target? before = some record)
    (isPatched : outcome.isPatched = true)
    (key : MethodKey) :
    before.behaviorAt? key request outcome =
      if record.key = key then some request.behavior else none := by
  simp [behaviorAt?, found, isPatched]

/-- One more body is new where it is put, and those elsewhere remain what they were. -/
theorem NewBody.update
    {bodies : MethodKey → Option Body}
    {last : MethodKey → Option Behavior}
    {behavior : Behavior}
    {place : MethodKey}
    {old body : Body}
    (known : ∀ key, NewBody form before after key (last key) (bodies key))
    (isOld : before.body? place = some old)
    (canned : after.CannedBody form behavior old.ins body)
    (key : MethodKey) :
    NewBody form before after key ((if place = key then some behavior else none).or (last key))
      (Function.update bodies place (some body) key) := by
  by_cases same : place = key
  · subst same
    rw [if_pos rfl, Function.update_self]
    exact ⟨old, body, isOld, rfl, canned⟩
  · rw [if_neg same, Function.update_of_ne (Ne.symm same)]
    exact known key

/-- A request leaves what the requests before have patched, and gives a new body to the method that
it finds, if it ends with one. -/
theorem applyRequest_spec
    {bodies : MethodKey → Option Body}
    {last : MethodKey → Option Behavior}
    (closed : before.Closed)
    (patched : Replaced bodies before after)
    (known : after.Numbered → ∀ key, NewBody form before after key (last key) (bodies key))
    (request : Request)
    {outcome : Outcome}
    {next : Container}
    (applied : after.applyRequest form request = (outcome, next)) :
    ∃ newBodies,
      Replaced newBodies before next ∧
        (next.Numbered →
          ∀ key,
            NewBody form before next key
              ((before.behaviorAt? key request outcome).or (last key)) (newBodies key)) := by
  have located := patched.target?_eq closed request
  rw [applyRequest, located] at applied
  cases target : request.target? before with
  | none =>
      rw [target] at applied
      obtain ⟨rfl, rfl⟩ := Prod.mk.inj applied
      exact ⟨bodies, patched, known⟩
  | some record =>
      rw [target] at applied
      simp only [Option.map_some] at applied
      obtain ⟨grown, interned, result⟩ := after.replaceBody_spec record.key request.behavior form
      have knownThen (few : grown.Numbered) (key : MethodKey) :
          NewBody form before grown key (last key) (bodies key) :=
        (known (interned.numbered few) key).of_extends interned.toExtends
      generalize after.replaceBody record.key request.behavior form = replaced at applied result
      obtain ⟨success, final⟩ := replaced
      cases success with
      | error reason =>
          obtain ⟨rfl, rfl⟩ := Prod.mk.inj applied
          obtain rfl : final = grown := result
          exact ⟨bodies, patched.interned interned, knownThen⟩
      | ok =>
          obtain ⟨rfl, rfl⟩ := Prod.mk.inj applied
          obtain ⟨old, body, isOld, sameIns, rfl, canned⟩ := result
          obtain ⟨first, isFirst, asMany⟩ := patched.exists_body? isOld
          have isOldThen : grown.body? record.key = some old := by
            rw [body?, method?, interned.classes]
            exact isOld
          have resized := grown.extends_setBody record.key (some body)
          refine ⟨_, (patched.interned interned).setBody isOldThen sameIns, fun few key => ?_⟩
          have fewBefore := resized.numbered few
          rw [behaviorAt?_of_patched target rfl key]
          exact (NewBody.update (knownThen fewBefore) isFirst (asMany ▸ canned fewBefore)
            key).of_extends resized

/-- Requests leave what those before have patched, except where they give new bodies. -/
theorem applyRequests_spec
    {bodies : MethodKey → Option Body}
    {last : MethodKey → Option Behavior}
    (closed : before.Closed)
    (patched : Replaced bodies before after)
    (known : after.Numbered → ∀ key, NewBody form before after key (last key) (bodies key))
    (requests : List Request) :
    ∃ newBodies,
      Replaced newBodies before (after.applyRequests form requests).2 ∧
        ((after.applyRequests form requests).2.Numbered →
          ∀ key,
            NewBody form before (after.applyRequests form requests).2 key
              ((before.lastBehavior? requests (after.applyRequests form requests).1 key).or
                (last key))
              (newBodies key)) := by
  induction requests generalizing after bodies last with
  | nil =>
      exact ⟨bodies, patched, known⟩
  | cons request rest inductionHypothesis =>
      obtain ⟨outcome, next, applied⟩ :
          ∃ outcome next, after.applyRequest form request = (outcome, next) := ⟨_, _, rfl⟩
      obtain ⟨middleBodies, patchedOnce, knownOnce⟩ :=
        applyRequest_spec closed patched known request applied
      obtain ⟨newBodies, patchedTwice, knownTwice⟩ := inductionHypothesis patchedOnce knownOnce
      simp only [applyRequests, applied]
      refine ⟨newBodies, patchedTwice, fun few key => ?_⟩
      have later := knownTwice few key
      rw [← Option.or_assoc] at later
      simpa [lastBehavior?, List.findSome?_append] using later

/-! ## Patched containers in canonical form -/

theorem map_mapIdx
    {α : Type}
    {before after : Nat → α → α}
    {change : α → α}
    (commutes : ∀ i x, change (before i x) = after i (change x))
    (list : List α) :
    (list.mapIdx before).map change = (list.map change).mapIdx after := by
  refine List.ext_getElem? fun i => ?_
  simp only [List.getElem?_map, List.getElem?_mapIdx]
  cases list[i]? <;> simp [commutes]

/-- Renumbering a class changes the new bodies as it changes others. -/
theorem mapRefs_withBodies
    {bodies : MethodKey → Option Body}
    (renumber : RefMap)
    (classIndex : Nat)
    (classDef : ClassDef) :
    (classDef.withBodies bodies classIndex).mapRefs renumber =
      (classDef.mapRefs renumber).withBodies
        (fun key => (bodies key).map (Body.mapRefs renumber)) classIndex := by
  have methods (kind : MethodKind) (list : List MemberMethod) :
      (list.mapIdx fun position method =>
            method.withBody (bodies { classIndex, kind, position })).map
          (MemberMethod.mapRefs renumber) =
        (list.map (MemberMethod.mapRefs renumber)).mapIdx fun position method =>
          method.withBody
            ((bodies { classIndex, kind, position }).map (Body.mapRefs renumber)) :=
    map_mapIdx (fun position method => by
      simp [MemberMethod.withBody, MemberMethod.mapRefs, Option.map_or]) list
  cases isData : classDef.data with
  | none =>
      simp [ClassDef.withBodies, ClassDef.mapRefs, isData]
  | some data =>
      simp [ClassDef.withBodies, ClassDef.mapRefs, ClassData.withBodies, ClassData.mapRefs, isData,
        methods]

/-- The second container says what the first does, the methods with a behavior apart: these have
the canned bodies.  Every reference names the entry that it named before, where it named one;
members and annotations are reordered, and the hidden-API section may be another one. -/
structure Patched
    (form : EmptyListForm)
    (behavior? : MethodKey → Option Behavior)
    (renumber : RefMap)
    (before after : Container) :
    Prop extends Follows renumber before after where
  injective : ∀ pool, Function.Injective (renumber pool)
  kept : ∀ index, renumber .callSite index = index ∧ renumber .methodHandle index = index
  version : after.version = before.version
  classes :
    ∃ bodies,
      (∀ key, NewBody form before after key (behavior? key) (bodies key)) ∧
        List.Forall₂ ClassDef.Reordered ((before.mapRefs renumber).withBodies bodies).classes
          after.classes
  callSites :
    List.Forall₂
      (fun old new => List.Forall₂ Value.Reordered (Value.mapRefsItems renumber old) new)
      before.callSites after.callSites
  methodHandles : after.methodHandles = before.methodHandles.map (MethodHandle.mapRefs renumber)
  operands :
    ∀ key body, behavior? key = none → before.body? key = some body →
      body.OperandsFollow renumber

/-- What says the same as a patched container says what the one before the patches did, the methods
with a behavior apart. -/
theorem Permuted.patched
    {bodies : MethodKey → Option Body}
    {behavior? : MethodKey → Option Behavior}
    {renumber : RefMap}
    {result : Container}
    (permuted : after.Permuted renumber result)
    (replaced : Replaced bodies before after)
    (known : ∀ key, NewBody form before after key (behavior? key) (bodies key)) :
    Patched form behavior? renumber before result where
  strings := fun index string found =>
    permuted.strings index string (getElem?_of_grown replaced.strings found)
  types := fun index string found =>
    permuted.types index string (getElem?_of_grown replaced.types found)
  protos := fun index proto found =>
    permuted.protos index proto (getElem?_of_grown replaced.protos found)
  fields := fun index id found =>
    permuted.fields index id (getElem?_of_grown replaced.fields found)
  methods := fun index id found =>
    permuted.methods index id (getElem?_of_grown replaced.methods found)
  injective := permuted.injective
  kept := permuted.kept
  version := permuted.version.trans replaced.version
  classes := by
    refine ⟨fun key => (bodies key).map (Body.mapRefs renumber), fun key => ?_, ?_⟩
    · have isNew := known key
      cases isBehavior : behavior? key with
      | none =>
          rw [isBehavior] at isNew
          exact congrArg (Option.map (Body.mapRefs renumber)) isNew
      | some behavior =>
          rw [isBehavior] at isNew
          obtain ⟨old, new, isOld, isBody, canned⟩ := isNew
          have inFull :=
            forall_bodies_iff.mp permuted.operands key new (replaced.body?_of_new isOld isBody)
          exact ⟨old, new.mapRefs renumber, isOld,
            congrArg (Option.map (Body.mapRefs renumber)) isBody,
            canned.renumbered permuted.toFollows inFull⟩
    · have classes := permuted.classes
      rw [replaced.classes, ← List.forall₂_map_left_iff, withBodies,
        map_mapIdx (mapRefs_withBodies renumber)] at classes
      exact classes
  callSites := by
    rw [← replaced.callSites]
    exact permuted.callSites
  methodHandles := by
    rw [← replaced.methodHandles]
    exact permuted.methodHandles
  operands := by
    intro key body untouched found
    have isNew := known key
    rw [untouched] at isNew
    have foundThen := (replaced.body?_of_none isNew).trans found
    exact forall_bodies_iff.mp permuted.operands key body foundThen

/-! ## What a run writes -/

/-- What a shaped container is written as is read back as its canonical form.  The hidden-API
section is the same, unless it was there and empty. -/
theorem exists_decode_of_encode
    {container : Container}
    {image : Bytes}
    (encoded : container.encode = .ok image)
    (fits : image.size < 4294967296)
    (shaped : container.Shaped)
    (headed : ∀ blob ∈ container.hiddenApi, HeadedByLength blob) :
    ∃ reread,
      decode image = .ok { container.canonical with hiddenApi := reread } ∧
        (reread = container.hiddenApi ↔ container.hiddenApi ≠ some #[]) := by
  by_cases empty : container.hiddenApi = some #[]
  · obtain ⟨rfl, readable⟩ := readable_of_encode encoded fits shaped
    obtain ⟨reread, decoded, other⟩ := decode_image_of_empty_hiddenApi readable empty fits
    exact ⟨some reread, decoded, by simp [empty, other]⟩
  · have shapedHiddenApi : ∀ blob ∈ container.hiddenApi, ShapedHiddenApi blob := by
      intro blob isBlob
      refine ⟨Array.size_pos_iff.mpr ?_, headed blob isBlob⟩
      rintro rfl
      exact empty isBlob
    exact ⟨container.hiddenApi, decode_of_encode encoded fits shaped shapedHiddenApi,
      by simp [empty]⟩

/-- A container that differs in the hidden-API section only is as patched. -/
theorem Patched.hiddenApi
    {behavior? : MethodKey → Option Behavior}
    {renumber : RefMap}
    (patched : Patched form behavior? renumber before after)
    (blob : Option Bytes) :
    Patched form behavior? renumber before { after with hiddenApi := blob } := by
  obtain ⟨bodies, areNew, classes⟩ := patched.classes
  have samePools : after.Extends { after with hiddenApi := blob } := { Extends.refl after with }
  exact
    { patched with classes := ⟨bodies, fun key => (areNew key).of_extends samePools, classes⟩ }

/-- What is written after some requests is read back as patched. -/
theorem exists_patched_of_encode
    {image output : Bytes}
    {container : Container}
    {requests : List Request}
    (decoded : decode image = .ok container)
    (encoded : (container.applyRequests form requests).2.encode = .ok output)
    (fits : output.size < 4294967296) :
    ∃ result renumber,
      decode output = .ok result ∧
        Patched form
          (container.lastBehavior? requests (container.applyRequests form requests).1) renumber
          container result := by
  obtain ⟨shaped, inRange, headed⟩ := decode_spec decoded
  have known :
      container.Numbered → ∀ key, NewBody form container container key none none :=
    fun _ _ => rfl
  obtain ⟨bodies, replaced, known⟩ :=
    applyRequests_spec inRange.closed (.refl container) known requests
  obtain ⟨-, checked, isImage⟩ := encode_eq_ok_iff.mp encoded
  have numbered := numbered_of_image (isImage ▸ fits)
  have areNew := known numbered
  simp only [Option.or_none] at areNew
  have shapedThen := replaced.shaped shaped fun key => (areNew key).shaped
  obtain ⟨reread, reads, -⟩ :=
    exists_decode_of_encode encoded fits shapedThen (by rw [replaced.hiddenApi]; exact headed)
  exact ⟨_, _, reads,
    ((permuted_canonical numbered checked).patched replaced areNew).hiddenApi reread⟩

end Container

/-- What a run writes, if anything, says what the image before said, the methods apart that its
requests have patched: these have the canned bodies that the last request for each asks for. -/
theorem Run.decode_output_patched
    {form : EmptyListForm}
    {image : Bytes}
    {requests : List Request}
    {container : Container}
    {written : Option Bytes}
    (decoded : Container.decode image = .ok container)
    (finished : (Run.ofImage form image requests).output = .ok written) :
    written.isSome = anyPatched (Run.ofImage form image requests).outcomes ∧
      ∀ output ∈ written, output.size < 4294967296 →
        ∃ result renumber,
          Container.decode output = .ok result ∧
            Container.Patched form
              (container.lastBehavior? requests (Run.ofImage form image requests).outcomes)
              renumber container result := by
  rw [Run.ofImage, decoded] at finished ⊢
  dsimp only at finished ⊢
  rw [patchedImage] at finished
  split at finished
  · next any =>
    split at finished
    · next output encoded =>
      obtain rfl := Except.ok.inj finished
      refine ⟨any.symm, fun output' isOutput fits => ?_⟩
      obtain rfl := Option.some.inj isOutput
      exact Container.exists_patched_of_encode decoded encoded fits
    · cases finished
  · next none =>
    obtain rfl := Except.ok.inj finished
    exact ⟨by simpa using none, by simp⟩

/-! ## A dangling operand -/

/-- The body of a method without arguments but its object, with nothing but code. -/
def Body.ofCode (registers : UInt16) (code : List UInt16) : Body :=
  { registers, ins := 1, outs := 0, code, tries := [], handlers := [], debug := none }

namespace Container

/-- What the pool operands of a body mean, instruction by instruction. -/
def operandMeanings (container : Container) (body : Body) : List (List (Option PoolEntry)) :=
  (split body.code).instructions.map fun instruction =>
    (poolOperands instruction).map fun ref => container.meaning? ref.pool ref.index

/-- One class with a method that returns a list, and one that calls a method which is not there,
though all that the source of the empty list is called is. -/
def dangling : Container :=
  { empty with
    strings :=
      #[{ data := [0x4c, 0x43, 0x3b], utf16Length := 3 },
        { data :=
            [0x4c, 0x6a, 0x61, 0x76, 0x61, 0x2f, 0x75, 0x74, 0x69, 0x6c, 0x2f, 0x4c, 0x69, 0x73,
              0x74, 0x3b]
          utf16Length := 16 },
        { data := [0x61], utf16Length := 1 }, { data := [0x62], utf16Length := 1 },
        { data := [0x56], utf16Length := 1 }, { data := [0x4c], utf16Length := 1 },
        { data :=
            [0x4c, 0x6a, 0x61, 0x76, 0x61, 0x2f, 0x75, 0x74, 0x69, 0x6c, 0x2f, 0x43, 0x6f, 0x6c,
              0x6c, 0x65, 0x63, 0x74, 0x69, 0x6f, 0x6e, 0x73, 0x3b]
          utf16Length := 23 },
        { data := [0x65, 0x6d, 0x70, 0x74, 0x79, 0x4c, 0x69, 0x73, 0x74], utf16Length := 9 }]
    types := #[0, 1, 4, 6]
    protos :=
      #[{ shorty := 5, returnType := 1, parameters := [] },
        { shorty := 4, returnType := 2, parameters := [] }]
    methods :=
      #[{ declaringType := 0, proto := 0, name := 2 },
        { declaringType := 0, proto := 1, name := 3 }]
    classes :=
      [{ type := 0, access := 1, superclass := none, interfaces := [], sourceFile := none
         annotations := none
         data :=
          some
            { staticFields := [], instanceFields := [], directMethods := []
              virtualMethods :=
                [{ method := 0, access := 1, body := some (.ofCode 2 [0x0012, 0x0011]) },
                  { method := 1, access := 1
                    body := some (.ofCode 1 [0x0071, 2, 0x0000, 0x000e]) }] }
         staticValues := none }] }

/-- The dangling container after the list is made empty. -/
def captured : Container :=
  { dangling with
    methods := dangling.methods.push { declaringType := 3, proto := 0, name := 7 } }.setBody
    { classIndex := 0, kind := .virtual, position := 0 }
    (some (.ofCode 2 [0x0071, 2, 0x0000, 0x000c, 0x0011]))

theorem readable_dangling : dangling.Readable := by
  decide +kernel

theorem decode_dangling : decode dangling.image = .ok dangling :=
  decode_image readable_dangling (by simp [dangling, empty]) (size_image_lt (by cbv))

theorem encode_captured : captured.encode = .ok captured.canonical.image :=
  encode_of_checks (by cbv) (by cbv)

theorem shaped_captured : captured.Shaped := by
  decide +kernel

theorem size_captured : captured.canonical.image.size < 4294967296 :=
  size_image_lt (by cbv)

theorem canned_dangling :
    dangling.canned .emptyList .invoke =
      ([.invokeStatic 2 [], .moveResultObject 0, .returnObject 0],
        { dangling with
          methods := dangling.methods.push { declaringType := 3, proto := 0, name := 7 } }) := by
  have sourceString : dangling.findString? listSource = some 6 := by decide +kernel
  have sourceType : dangling.types.findIdx? (· == 6) = some 3 := by decide +kernel
  have listString : dangling.findString? Behavior.listType = some 1 := by decide +kernel
  have listType : dangling.types.findIdx? (· == 1) = some 1 := by decide +kernel
  have isProto :
      (dangling.protos.findIdx? fun proto => proto.returnType == 1 && proto.parameters == []) =
        some 0 := by
    decide +kernel
  have name : dangling.findString? "emptyList" = some 7 := by decide +kernel
  have isNew :
      dangling.methods.findIdx? (· == { declaringType := 3, proto := 0, name := 7 }) = none := by
    decide +kernel
  have source : dangling.internType listSource = (3, dangling) :=
    internType_of_found sourceString sourceType
  have list : dangling.internType Behavior.listType = (1, dangling) :=
    internType_of_found listString listType
  have proto : dangling.internProto Behavior.listType [] = (0, dangling) := by
    rw [internProto, list]
    dsimp only [internTypes]
    rw [isProto]
    rfl
  rw [canned_emptyList, internSource, internMethod, source]
  dsimp only
  rw [proto]
  dsimp only
  rw [internString, name]
  dsimp only
  rw [isNew]
  rfl

theorem applyRequests_dangling :
    dangling.applyRequests .invoke [.unqualified "a" .emptyList] =
      ([{ methodName := "a", status := .patched "LC;->a()Ljava/util/List;" }], captured) := by
  have located :
      ((Request.target? (.unqualified "a" .emptyList) dangling).map fun record =>
          (record.key, record.signature)) =
        some ({ classIndex := 0, kind := .virtual, position := 0 },
          "LC;->a()Ljava/util/List;") := by
    decide +kernel
  obtain ⟨record, isTarget, isRecord⟩ := Option.map_eq_some_iff.mp located
  obtain ⟨isKey, isSignature⟩ := Prod.mk.inj isRecord
  have replaced :
      dangling.replaceBody { classIndex := 0, kind := .virtual, position := 0 } .emptyList
          .invoke =
        (.ok (), captured) := by
    rw [replaceBody, canned_dangling]
    rfl
  have applied :
      dangling.applyRequest .invoke (.unqualified "a" .emptyList) =
        ({ methodName := "a", status := .patched "LC;->a()Ljava/util/List;" }, captured) := by
    rw [applyRequest, isTarget]
    dsimp only [Request.unqualified]
    rw [isKey, isSignature, replaced]
  rw [applyRequests, applied]
  rfl

theorem output_dangling :
    (Run.ofImage .invoke dangling.image [.unqualified "a" .emptyList]).output =
      .ok (some captured.canonical.image) := by
  rw [Run.ofImage, decode_dangling]
  dsimp only
  rw [applyRequests_dangling, patchedImage, encode_captured]
  rfl

end Container

open Container in
/-- The run over the dangling container writes an image that says what its own did. -/
theorem Run.decode_output_patched_dangling :
    (Container.decode dangling.image = .ok dangling ∧
        (Run.ofImage .invoke dangling.image [.unqualified "a" .emptyList]).output =
            .ok (some captured.canonical.image) ∧
          captured.canonical.image.size < 4294967296) ∧
      ∃ result renumber,
        Container.decode captured.canonical.image = .ok result ∧
          Container.Patched .invoke
            (dangling.lastBehavior? [.unqualified "a" .emptyList]
              (Run.ofImage .invoke dangling.image [.unqualified "a" .emptyList]).outcomes)
            renumber dangling result :=
  ⟨⟨decode_dangling, output_dangling, size_captured⟩,
    (Run.decode_output_patched decode_dangling output_dangling).2 _ rfl size_captured⟩

open Container in
/-- An operand that means nothing can mean something after a run, in a method that no request
finds: here it calls the method that is interned for another body. -/
theorem Run.decode_output_captures_operand :
    ∃ image output result old new,
      Container.decode image = .ok dangling ∧
        (Run.ofImage .invoke image [.unqualified "a" .emptyList]).output = .ok (some output) ∧
          output.size < 4294967296 ∧ Container.decode output = .ok result ∧
            dangling.lastBehavior? [.unqualified "a" .emptyList]
                (Run.ofImage .invoke image [.unqualified "a" .emptyList]).outcomes
                { classIndex := 0, kind := .virtual, position := 1 } =
              none ∧
            dangling.body? { classIndex := 0, kind := .virtual, position := 1 } = some old ∧
              result.body? { classIndex := 0, kind := .virtual, position := 1 } = some new ∧
                dangling.operandMeanings old ≠ result.operandMeanings new := by
  have outcomes :
      (Run.ofImage .invoke dangling.image [.unqualified "a" .emptyList]).outcomes =
        [{ methodName := "a", status := .patched "LC;->a()Ljava/util/List;" }] := by
    rw [Run.ofImage, decode_dangling]
    dsimp only
    rw [applyRequests_dangling]
  have decoded : Container.decode captured.canonical.image = .ok captured.canonical :=
    decode_of_encode encode_captured size_captured shaped_captured
      (by simp [captured, setBody, modifyMethod, dangling, empty])
  have renumbered :
      captured.canonical.body? { classIndex := 0, kind := .virtual, position := 1 } =
        some (.ofCode 1 [0x0071, 2, 0x0000, 0x000e]) := by
    cbv
  have before :
      (dangling.operandMeanings (.ofCode 1 [0x0071, 2, 0x0000, 0x000e])).map (·.map (·.isSome)) =
        [[false], []] := by
    cbv
  have after :
      (captured.canonical.operandMeanings (.ofCode 1 [0x0071, 2, 0x0000, 0x000e])).map
          (·.map (·.isSome)) =
        [[true], []] := by
    cbv
  refine ⟨_, _, _, _, _, decode_dangling, output_dangling, size_captured, decoded, ?_, rfl,
    renumbered, fun same => ?_⟩
  · rw [outcomes]
    decide +kernel
  · rw [same, after] at before
    exact absurd before (by decide)

end DexPatch
