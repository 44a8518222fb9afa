import DexPatch.Proofs.Searching

namespace DexPatch

/-!
# Runs on what runs have written

What requests leave, and the canonical form that it is written as, are what
these requests make of themselves: to apply them once more finds the methods
that have been patched, with the bodies that they are to have, and the source
of the empty list where it is.  So a run on an image that a run has written
writes that image.
-/

namespace Container

/-! ## Requests that have been applied -/

/-- A container that is what requests have left, none of which failed to assemble, and that can be
written with its methods in place. -/
structure Settled
    (container : Container)
    (form : EmptyListForm)
    (requests : List Request) :
    Prop where
  closed : container.Closed
  numbered : container.Numbered
  inPlace : container.InPlace (Renumbering.ofContainer container).map
  kept : container.patchedBy form requests = container
  assembled :
    ∀ request ∈ requests, ∀ reason,
      (container.outcomeOf form request).status ≠ .assemblyFailed reason
  fits :
    ∀ key body, container.body? key = some body →
      (container.renumbered (Renumbering.ofContainer container)).BodyFits
        (Renumbering.ofContainer container).map body

/-- The operand of the body that returns the empty list gets a number that fits. -/
theorem BodyFits.source_lt
    {pools : Container}
    {renumber : RefMap}
    {form : EmptyListForm}
    {source ins : UInt16}
    (fits : pools.BodyFits renumber (cannedBody form source .emptyList ins)) :
    (renumber form.sourcePool source.toUInt32).toNat < 65536 := by
  have refers :
      ∃ instruction ∈ (split (cannedBody form source .emptyList ins).code).instructions,
        Reference.brief form.sourcePool source.toUInt32 ∈ poolOperands instruction := by
    cases form with
    | invoke => exact ⟨[0x0071, source, 0x0000], List.mem_cons_self, List.mem_cons_self⟩
    | field => exact ⟨[0x0062, source], List.mem_cons_self, List.mem_cons_self⟩
  obtain ⟨instruction, member, isOperand⟩ := refers
  exact (fits.operands instruction member _ isOperand).2 rfl

/-- The body that returns the empty list gets another operand. -/
theorem mapRefs_cannedBody
    (renumber : RefMap)
    (form : EmptyListForm)
    (source ins : UInt16) :
    (cannedBody form source .emptyList ins).mapRefs renumber =
      cannedBody form (renumber form.sourcePool source.toUInt32).toUInt16 .emptyList ins := by
  cases form <;> rfl

/-- A method that a request finds returns what the behavior does. -/
theorem returnType_of_target?
    {container : Container}
    {request : Request}
    {record : MethodRecord}
    (located : request.target? container = some record) :
    record.returnType = request.behavior.returnType := by
  have fits := List.find?_some located
  simp only [Request.fits, Bool.and_eq_true, beq_iff_eq] at fits
  exact fits.1.1.1.2

/-- There is one method at a key. -/
theorem eq_of_key_eq
    {container : Container}
    {first second : Request}
    {found other : MethodRecord}
    (isFirst : first.target? container = some found)
    (isSecond : second.target? container = some other)
    (sameKey : found.key = other.key) :
    found = other := by
  obtain ⟨⟨key, method⟩, member, rfl⟩ := List.mem_map.mp (List.mem_of_find?_eq_some isFirst)
  obtain ⟨⟨otherKey, otherMethod⟩, otherMember, rfl⟩ :=
    List.mem_map.mp (List.mem_of_find?_eq_some isSecond)
  obtain rfl : key = otherKey := sameKey
  have same := (mem_keyedMethods_iff.mp member).symm.trans (mem_keyedMethods_iff.mp otherMember)
  rw [Option.some.inj same]

namespace Settled

variable
  {container : Container} {form : EmptyListForm} {requests : List Request}
  (settled : container.Settled form requests)

include settled

/-- Every request that finds a method has patched it. -/
theorem isPatched
    {request : Request}
    (member : request ∈ requests)
    {record : MethodRecord}
    (located : request.target? container = some record) :
    ∃ ins,
      container.growableIns record.key = .ok ins ∧
        ¬ container.SourceTooWide form request.behavior := by
  have assembled := settled.assembled request member
  rw [outcomeOf] at assembled
  cases growable : container.growableIns record.key with
  | error reason =>
      rw [applyRequest_of_error located growable] at assembled
      exact absurd rfl (assembled reason)
  | ok ins =>
      refine ⟨ins, rfl, fun tooWide => ?_⟩
      rw [applyRequest_of_tooWide located growable tooWide] at assembled
      exact absurd rfl (assembled _)

/-- The bodies that the requests ask for are there. -/
theorem body?_of_newBodies
    {key : MethodKey}
    {body : Body}
    (isNew : container.newBodies form requests key = some body) :
    container.body? key = some body := by
  obtain ⟨behavior, -, isBody⟩ := Option.bind_eq_some_iff.mp isNew
  obtain ⟨old, isOld, -⟩ := Option.map_eq_some_iff.mp isBody
  have found := (container.replaced_patchedBy form requests).body?_of_new isOld isNew
  rwa [settled.kept] at found

/-- A method that is to return the empty list does so in the end, since no other behavior fits
it. -/
theorem lastBehavior?_of_emptyList
    {request : Request}
    (member : request ∈ requests)
    (asks : request.behavior.asksSource = true)
    {record : MethodRecord}
    (located : request.target? container = some record) :
    container.lastBehavior? requests (requests.map (container.outcomeOf form)) record.key =
      some .emptyList := by
  obtain ⟨ins, growable, fits⟩ := settled.isPatched member located
  have isPatched : (container.outcomeOf form request).isPatched = true := by
    rw [outcomeOf, applyRequest_of_fits located growable fits]
    rfl
  have given := behaviorAt?_of_patched located isPatched record.key
  rw [if_pos rfl] at given
  have isEmptyList (behavior : Behavior)
      (same : behavior.returnType = request.behavior.returnType) :
      behavior = .emptyList := by
    revert asks same
    cases request.behavior <;> cases behavior <;> decide
  -- The last behavior was given to the same method, so it has the same return type.
  rw [lastBehavior?_map]
  cases last :
      requests.reverse.findSome? fun request =>
        container.behaviorAt? record.key request (container.outcomeOf form request) with
  | none =>
      have never := List.findSome?_eq_none_iff.mp last request (List.mem_reverse.mpr member)
      rw [given] at never
      cases never
  | some behavior =>
      obtain ⟨other, -, isLast⟩ := List.exists_of_findSome?_eq_some last
      obtain ⟨-, rfl, found, locatedToo, sameKey⟩ := of_behaviorAt?_eq_some isLast
      obtain rfl := eq_of_key_eq locatedToo located sameKey
      rw [isEmptyList other.behavior
        ((returnType_of_target? locatedToo).symm.trans (returnType_of_target? located))]

/-- The source that a request asks for is there, and both its number and its new number fit an
operand. -/
theorem source_spec
    {request : Request}
    (member : request ∈ requests)
    (asks : container.asksSource request = true) :
    container.findSource? form = some (container.internSource form).1 ∧
      (container.internSource form).1.toUInt16.toUInt32 = (container.internSource form).1 ∧
        ((Renumbering.ofContainer container).map form.sourcePool
          (container.internSource form).1).toNat < 65536 := by
  have anyAsks : requests.any container.asksSource = true :=
    List.any_eq_true.mpr ⟨request, member, asks⟩
  have there :
      (container.patchedBy form requests).findSource? form =
        some (container.internSource form).1 := by
    rw [patchedBy, anyAsks]
    exact findSource?_altered
  rw [settled.kept] at there
  obtain ⟨asksFor, finds⟩ := Bool.and_eq_true_iff.mp asks
  obtain ⟨record, located, -⟩ := (Option.any_eq_true _ _).mp finds
  obtain ⟨ins, growable, fits⟩ := settled.isPatched member located
  have operand : (container.internSource form).1.toUInt16.toUInt32 = _ :=
    toUInt32_toUInt16 (Nat.lt_of_not_le fun wide => fits ⟨asksFor, wide⟩)
  obtain ⟨old, isOld, -⟩ := exists_of_growableIns growable
  have isNew :
      container.newBodies form requests record.key =
        some (cannedBody form (container.internSource form).1.toUInt16 .emptyList old.ins) := by
    rw [newBodies, settled.lastBehavior?_of_emptyList member asksFor located, Option.bind_some,
      isOld, Option.map_some]
  have narrow := (settled.fits _ _ (settled.body?_of_newBodies isNew)).source_lt
  rw [operand] at narrow
  exact ⟨there, operand, narrow⟩

/-- The source that a request asks for is found in the canonical form. -/
theorem internSource_canonical
    {request : Request}
    (member : request ∈ requests)
    (asks : container.asksSource request = true) :
    container.canonical.internSource form =
      ((Renumbering.ofContainer container).map form.sourcePool (container.internSource form).1,
        container.canonical) :=
  (interns_source form).ofFound _ _
    (findSource?_canonical settled.numbered (settled.source_spec member asks).1)

/-- A request ends on the canonical form as it does on the container. -/
theorem outcomeOf_canonical
    {request : Request}
    (member : request ∈ requests) :
    container.canonical.outcomeOf form request = container.outcomeOf form request := by
  have locatedThen := target?_canonical settled.inPlace settled.closed settled.numbered request
  rw [outcomeOf, outcomeOf]
  cases located : request.target? container with
  | none =>
      rw [located] at locatedThen
      rw [applyRequest_of_notFound located, applyRequest_of_notFound locatedThen]
  | some record =>
      rw [located] at locatedThen
      obtain ⟨ins, growable, fits⟩ := settled.isPatched member located
      have growableThen := (growableIns_canonical settled.inPlace record.key).trans growable
      have fitsThen : ¬ container.canonical.SourceTooWide form request.behavior := by
        rintro ⟨asksFor, wide⟩
        have asks := (asksSource_of_growable located growable).trans asksFor
        rw [settled.internSource_canonical member asks] at wide
        exact Nat.not_lt.mpr wide (settled.source_spec member asks).2.2
      rw [applyRequest_of_fits located growable fits,
        applyRequest_of_fits locatedThen growableThen fitsThen]
      rfl

theorem lastBehavior?_canonical (key : MethodKey) :
    container.canonical.lastBehavior? requests
        (requests.map (container.canonical.outcomeOf form)) key =
      container.lastBehavior? requests (requests.map (container.outcomeOf form)) key := by
  rw [List.map_congr_left fun request member => settled.outcomeOf_canonical member, lastBehavior?,
    lastBehavior?]
  simp only [behaviorAt?_canonical settled.inPlace settled.closed settled.numbered]

/-- The new bodies on the canonical form are those on the container with other numbers. -/
theorem newBodies_canonical (key : MethodKey) :
    container.canonical.newBodies form requests key =
      (container.newBodies form requests key).map
        (Body.mapRefs (Renumbering.ofContainer container).map) := by
  rw [newBodies, newBodies, settled.lastBehavior?_canonical, body?_canonical settled.inPlace]
  cases last :
      container.lastBehavior? requests (requests.map (container.outcomeOf form)) key with
  | none =>
      rfl
  | some behavior =>
      cases isOld : container.body? key with
      | none =>
          rfl
      | some old =>
          refine congrArg some ?_
          cases behavior with
          | constantFalse =>
              rfl
          | constantTrue =>
              rfl
          | emptyList =>
              -- Only this body has an operand, which is the new number of the source there.
              rw [lastBehavior?_map] at last
              obtain ⟨request, member, given⟩ := List.exists_of_findSome?_eq_some last
              obtain ⟨-, asksFor, record, located, -⟩ := of_behaviorAt?_eq_some given
              have isMember := List.mem_reverse.mp member
              obtain ⟨ins, growable, -⟩ := settled.isPatched isMember located
              have asks : container.asksSource request = true := by
                rw [asksSource_of_growable located growable, asksFor]
                rfl
              rw [settled.internSource_canonical isMember asks, mapRefs_cannedBody,
                (settled.source_spec isMember asks).2.1]
              rfl

/-- To apply the requests to the canonical form changes nothing, and they end as before. -/
theorem applyRequests_canonical (closedThen : container.canonical.Closed) :
    container.canonical.applyRequests form requests =
      (requests.map (container.outcomeOf form), container.canonical) := by
  have asksThen : requests.any container.canonical.asksSource = requests.any container.asksSource :=
    congrArg requests.any
      (funext (asksSource_canonical settled.inPlace settled.closed settled.numbered))
  have withSource :
      container.canonical.withSource form (requests.any container.asksSource) =
        container.canonical := by
    cases anyAsks : requests.any container.asksSource with
    | false =>
        rfl
    | true =>
        obtain ⟨request, member, asks⟩ := List.any_eq_true.mp anyAsks
        rw [Container.withSource, if_pos rfl, settled.internSource_canonical member asks]
  rw [applyRequests_eq closedThen, patchedBy, altered, asksThen, withSource,
    List.map_congr_left fun request member => settled.outcomeOf_canonical member]
  refine congrArg (Prod.mk _) (withBodies_eq_self fun key body isNew => ?_)
  rw [Option.mem_def, settled.newBodies_canonical] at isNew
  obtain ⟨old, isOld, rfl⟩ := Option.map_eq_some_iff.mp isNew
  rw [body?_canonical settled.inPlace, settled.body?_of_newBodies isOld, Option.map_some]

end Settled

/-! ## What requests leave -/

section Left

variable {container : Container} {form : EmptyListForm} {requests : List Request}

/-- What requests leave is shaped if the container was, since a canned body is nothing but code. -/
theorem shaped_patchedBy (shaped : container.Shaped) :
    (container.patchedBy form requests).Shaped := by
  refine (container.replaced_patchedBy form requests).shaped shaped fun key body isNew => ?_
  obtain ⟨behavior, -, isBody⟩ := Option.bind_eq_some_iff.mp isNew
  obtain ⟨old, -, rfl⟩ := Option.map_eq_some_iff.mp isBody
  exact shaped_of_plain rfl rfl rfl

variable (closed : container.Closed)

include closed

/-- What requests leave is closed if the references inside its pools lead to entries. -/
theorem closed_patchedBy
    (pools :
      ∀ ref ∈ (container.patchedBy form requests).poolRefs,
        (container.patchedBy form requests).Leads ref) :
    (container.patchedBy form requests).Closed where
  pools := pools
  methods := by
    intro key method found
    have replaced := container.replaced_patchedBy form requests
    rw [replaced.method?_eq] at found
    obtain ⟨old, isOld, rfl⟩ := Option.map_eq_some_iff.mp found
    exact Nat.lt_of_lt_of_le (closed.methods key old isOld) replaced.methods.length_le

/-- Methods that ascend in a container in canonical order stay where they are when what requests
leave is sorted again. -/
theorem inPlace_patchedBy
    (ordered : ∀ pool, (container.poolKeys pool).Pairwise (· ≤ ·))
    (members : ∀ classDef ∈ container.classes, ∀ data ∈ classDef.data, data.Ascends)
    (numbered : (container.patchedBy form requests).Numbered) :
    (container.patchedBy form requests).InPlace
      (Renumbering.ofContainer (container.patchedBy form requests)).map := by
  have replaced := container.replaced_patchedBy form requests
  have keeps := replaced.keepsOrder closed ordered numbered .method
  intro classDef isClass data isData kind
  rw [replaced.classes] at isClass
  obtain ⟨classIndex, inside, rfl⟩ := List.mem_mapIdx.mp isClass
  obtain ⟨old, isOld, rfl⟩ := Option.map_eq_some_iff.mp isData
  have isOldClass := List.getElem_mem inside
  have known (method : MemberMethod) (listed : method ∈ old.methods kind) :
      method.method.toNat < container.methods.size := by
    have isMethod : method ∈ container.classes[classIndex].allMethods := by
      rw [ClassDef.allMethods, isOld]
      cases kind with
      | direct => exact List.mem_append_left _ listed
      | virtual => exact List.mem_append_right _ listed
    obtain ⟨key, found⟩ := exists_key isOldClass isMethod
    exact closed.methods key method found
  have renumbered :
      ((old.methods kind).map (·.method)).Pairwise fun first second =>
        (Renumbering.ofContainer (container.patchedBy form requests)).map .method first ≤
          (Renumbering.ofContainer (container.patchedBy form requests)).map .method second :=
    List.pairwise_map.mpr
      (((members _ isOldClass old isOld).methods kind).imp_of_mem
        fun _ listed inOrder => keeps.monotone (known _ listed) inOrder)
  rw [← ClassData.numbers_withBodies (container.newBodies form requests) classIndex] at renumbered
  exact (List.pairwise_map (f := fun method : MemberMethod => method.method)).mp renumbered

/-- What requests leave is settled if each of them found no method or patched one, and if it can be
written. -/
theorem settled_patchedBy
    (ordered : ∀ pool, (container.poolKeys pool).Pairwise (· ≤ ·))
    (members : ∀ classDef ∈ container.classes, ∀ data ∈ classDef.data, data.Ascends)
    (assembled :
      ∀ request ∈ requests, ∀ reason,
        (container.outcomeOf form request).status ≠ .assemblyFailed reason)
    {image : Bytes}
    (encoded : (container.patchedBy form requests).encode = .ok image)
    (fits : image.size < 4294967296) :
    (container.patchedBy form requests).Settled form requests := by
  obtain ⟨pools, checked, rfl⟩ := encode_eq_ok_iff.mp encoded
  have numbered := numbered_of_image fits
  have closedThen := closed_patchedBy closed pools
  refine
    { closed := closedThen
      numbered
      inPlace := inPlace_patchedBy closed ordered members numbered
      kept := ?_
      assembled := fun request member => ?_
      fits := forall_bodies_iff.mp checked.bodies }
  · -- To apply the requests to what they leave is to apply them twice.
    have again := (applyRequests_eq closedThen requests).symm.trans
      (applyRequests_patchedBy closed requests requests)
    rw [patchedBy_append_self] at again
    exact (Prod.mk.inj again).2
  · rw [outcomeOf, applyRequest_patchedBy closed]
    exact assembled request member

end Left

end Container

/-! ## Runs -/

open Container

namespace Run

variable
  {form : EmptyListForm} {image written : Bytes} {requests : List Request} {container : Container}

/-- A run on an image is a run on what the image holds. -/
theorem ofImage_of_decode (decoded : decode image = .ok container) :
    Run.ofImage form image requests =
      { outcomes := (container.applyRequests form requests).1
        output :=
          patchedImage (container.applyRequests form requests).2
            (container.applyRequests form requests).1 } := by
  rw [Run.ofImage, decoded]

/-- There is a new image exactly if a request was patched and the container can be written. -/
theorem patchedImage_eq_some_iff {outcomes : List Outcome} :
    patchedImage container outcomes = .ok (some written) ↔
      anyPatched outcomes = true ∧ container.encode = .ok written := by
  rw [patchedImage]
  cases anyPatched outcomes with
  | false => simp
  | true => cases container.encode <;> simp

/-- A run on what it has written ends as it did, and writes the same once more, if the image that
it was run on was in canonical order and no request failed to assemble. -/
theorem ofImage_written
    (decoded : decode image = .ok container)
    (ordered : ∀ pool, (container.poolKeys pool).Pairwise (· ≤ ·))
    (members : ∀ classDef ∈ container.classes, ∀ data ∈ classDef.data, data.Ascends)
    (hiddenApi : container.hiddenApi ≠ some #[])
    (assembled :
      ∀ outcome ∈ (Run.ofImage form image requests).outcomes, ∀ reason,
        outcome.status ≠ .assemblyFailed reason)
    (finished : (Run.ofImage form image requests).output = .ok (some written))
    (fits : written.size < 4294967296) :
    (Run.ofImage form written requests).outcomes = (Run.ofImage form image requests).outcomes ∧
      (Run.ofImage form written requests).output = .ok (some written) := by
  obtain ⟨shaped, inRange, headed⟩ := decode_spec decoded
  have closed := inRange.closed
  have replaced := container.replaced_patchedBy form requests
  rw [ofImage_of_decode decoded, applyRequests_eq closed] at assembled finished ⊢
  dsimp only at assembled finished ⊢
  obtain ⟨anyPatched, encoded⟩ := patchedImage_eq_some_iff.mp finished
  have settled :=
    settled_patchedBy closed ordered members (List.forall_mem_map.mp assembled) encoded fits
  have decodedThen : decode written = .ok (container.patchedBy form requests).canonical := by
    refine decode_of_encode encoded fits (shaped_patchedBy shaped) fun blob isBlob => ?_
    rw [replaced.hiddenApi] at isBlob
    refine ⟨Array.size_pos_iff.mpr ?_, headed blob isBlob⟩
    rintro rfl
    exact hiddenApi isBlob
  have sameOutcomes :
      requests.map ((container.patchedBy form requests).outcomeOf form) =
        requests.map (container.outcomeOf form) :=
    List.map_congr_left fun request _ => by rw [outcomeOf, applyRequest_patchedBy closed]
  obtain ⟨rfl, representable⟩ := representable_of_encode encoded
  have encodedThen := encode_canonical settled.numbered representable
  obtain ⟨-, inRangeThen, -⟩ := decode_spec decodedThen
  rw [ofImage_of_decode decodedThen, settled.applyRequests_canonical inRangeThen.closed,
    sameOutcomes]
  exact ⟨rfl, patchedImage_eq_some_iff.mpr ⟨anyPatched, encodedThen⟩⟩

end Run

/-! ## A pair that is patched twice -/

namespace Container

/-- The pair with the field that holds the empty list. -/
def pairedWithList : Container :=
  { paired with
    strings := (paired.strings.push (.ofText listSource)).push (.ofText "EMPTY_LIST")
    types := paired.types.push 6
    fields := #[{ declaringType := 3, type := 1, name := 7 }] }

/-- The pair with a method that returns the empty list. -/
def pairedEmptied : Container :=
  pairedWithList.setBody { classIndex := 0, kind := .virtual, position := 0 }
    (some (.ofCode 2 [0x0062, 0, 0x0011]))

/-- The pair with a method that returns the empty list and one that returns false. -/
def pairedPatched : Container :=
  pairedEmptied.setBody { classIndex := 0, kind := .virtual, position := 1 }
    (some (.ofCode 2 [0x0012, 0x000f]))

theorem decode_paired : decode paired.image = .ok paired :=
  decode_image readable_paired (by simp [paired, empty]) (size_image_lt (by cbv))

theorem internSource_paired : paired.internSource .field = (0, pairedWithList) := by
  let withType : Container :=
    { paired with
      strings := paired.strings.push (.ofText listSource)
      types := paired.types.push 6 }
  have newString : paired.findString? listSource = none := by decide +kernel
  have newType : paired.types.findIdx? (· == 6) = none := by decide +kernel
  have listString : withType.findString? Behavior.listType = some 2 := by decide +kernel
  have listType : withType.types.findIdx? (· == 2) = some 1 := by decide +kernel
  have newName : withType.findString? "EMPTY_LIST" = none := by decide +kernel
  have newField :
      withType.fields.findIdx? (· == { declaringType := 3, type := 1, name := 7 }) = none := by
    decide +kernel
  have source : paired.internType listSource = (3, withType) := internType_of_new newString newType
  have list : withType.internType Behavior.listType = (1, withType) :=
    internType_of_found listString listType
  rw [internSource, internField, source]
  dsimp only
  rw [list]
  dsimp only
  rw [internString_of_new newName]
  dsimp only
  rw [show UInt32.ofNat withType.strings.size = 7 from rfl, newField]
  rfl

/-- Both methods of the pair are patched. -/
theorem applyRequests_paired :
    paired.applyRequests .field
        [.unqualified "a" .emptyList, .unqualified "b" .constantFalse] =
      ([{ methodName := "a", status := .patched "LC;->a()Ljava/util/List;" },
          { methodName := "b", status := .patched "LC;->b()Z" }],
        pairedPatched) := by
  have narrow : ¬ paired.SourceTooWide .field .emptyList := by
    rintro ⟨-, wide⟩
    rw [internSource_paired] at wide
    exact absurd wide (by decide)
  have emptied :
      paired.applyRequest .field (.unqualified "a" .emptyList) =
        ({ methodName := "a", status := .patched "LC;->a()Ljava/util/List;" },
          pairedEmptied) := by
    have located :
        (Request.target? (.unqualified "a" .emptyList) paired).map
            (fun record => (record.key, record.signature)) =
          some ({ classIndex := 0, kind := .virtual, position := 0 },
            "LC;->a()Ljava/util/List;") := by
      decide +kernel
    rw [applyRequest_of_located located rfl narrow, withSource, internSource_paired]
    rfl
  have patched :
      pairedEmptied.applyRequest .field (.unqualified "b" .constantFalse) =
        ({ methodName := "b", status := .patched "LC;->b()Z" }, pairedPatched) := by
    have located :
        (Request.target? (.unqualified "b" .constantFalse) pairedEmptied).map
            (fun record => (record.key, record.signature)) =
          some ({ classIndex := 0, kind := .virtual, position := 1 }, "LC;->b()Z") := by
      decide +kernel
    have asksNot : ¬ pairedEmptied.SourceTooWide .field .constantFalse := fun tooWide =>
      absurd tooWide.1 Bool.false_ne_true
    rw [applyRequest_of_located located rfl asksNot]
    rfl
  rw [applyRequests, emptied]
  dsimp only
  rw [applyRequests, patched]
  rfl

theorem encode_pairedPatched : pairedPatched.encode = .ok pairedPatched.canonical.image :=
  encode_of_checks (by cbv) (by cbv)

theorem output_paired :
    (Run.ofImage .field paired.image
        [.unqualified "a" .emptyList, .unqualified "b" .constantFalse]).output =
      .ok (some pairedPatched.canonical.image) := by
  rw [Run.ofImage_of_decode decode_paired, applyRequests_paired]
  dsimp only
  exact Run.patchedImage_eq_some_iff.mpr ⟨rfl, encode_pairedPatched⟩

end Container

open Container in
/-- The run over the pair writes an image that it writes once more when it is run on it. -/
theorem Run.ofImage_written_paired :
    (Container.decode paired.image = .ok paired ∧
        (∀ pool, (paired.poolKeys pool).Pairwise (· ≤ ·)) ∧
          (∀ classDef ∈ paired.classes, ∀ data ∈ classDef.data, data.Ascends) ∧
            paired.hiddenApi ≠ some #[] ∧
              (Run.ofImage .field paired.image
                    [.unqualified "a" .emptyList, .unqualified "b" .constantFalse]).output =
                  .ok (some pairedPatched.canonical.image) ∧
                pairedPatched.canonical.image.size < 4294967296) ∧
      (Run.ofImage .field pairedPatched.canonical.image
            [.unqualified "a" .emptyList, .unqualified "b" .constantFalse]).outcomes =
          [{ methodName := "a", status := .patched "LC;->a()Ljava/util/List;" },
            { methodName := "b", status := .patched "LC;->b()Z" }] ∧
        (Run.ofImage .field pairedPatched.canonical.image
              [.unqualified "a" .emptyList, .unqualified "b" .constantFalse]).output =
            .ok (some pairedPatched.canonical.image) := by
  have ordered (pool : Pool) : (paired.poolKeys pool).Pairwise (· ≤ ·) := by
    cases pool <;> decide +kernel
  have members : ∀ classDef ∈ paired.classes, ∀ data ∈ classDef.data, data.Ascends := by
    intro classDef isClass data isData
    obtain rfl := List.mem_singleton.mp isClass
    obtain rfl := Option.some.inj isData
    exact ⟨.nil, .nil, .nil, List.pairwise_pair.mpr (by decide)⟩
  have hiddenApi : paired.hiddenApi ≠ some #[] := by simp [paired, empty]
  have outcomes :
      (Run.ofImage .field paired.image
          [.unqualified "a" .emptyList, .unqualified "b" .constantFalse]).outcomes =
        [{ methodName := "a", status := .patched "LC;->a()Ljava/util/List;" },
          { methodName := "b", status := .patched "LC;->b()Z" }] := by
    rw [Run.ofImage_of_decode decode_paired, applyRequests_paired]
  have fits : pairedPatched.canonical.image.size < 4294967296 := size_image_lt (by cbv)
  have again :=
    Run.ofImage_written decode_paired ordered members hiddenApi (by rw [outcomes]; simp)
      output_paired fits
  rw [outcomes] at again
  exact ⟨⟨decode_paired, ordered, members, hiddenApi, output_paired, fits⟩, again⟩

end DexPatch
