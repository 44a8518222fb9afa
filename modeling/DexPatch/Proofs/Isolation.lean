import DexPatch.Proofs.Independence

namespace DexPatch

/-!
# Requests that fail

A request that is not patched leaves all bodies as they are.  It leaves the
pools as they are, too, unless it fails because the source of the empty list
has too wide a number: then the source is interned all the same.
-/

namespace Container

variable {container : Container} {form : EmptyListForm} {request : Request}

/-- A request that fails leaves the source of the empty list behind if it has asked for it, and
nothing else. -/
theorem applyRequest_of_failed
    (failed : (container.applyRequest form request).1.isPatched = false) :
    (container.applyRequest form request).2 =
      container.withSource form (container.asksSource request) := by
  cases located : request.target? container with
  | none =>
      rw [applyRequest_of_notFound located, asksSource_of_notFound located]
      rfl
  | some record =>
      cases growable : container.growableIns record.key with
      | error reason =>
          rw [applyRequest_of_error located growable, asksSource_of_error located growable]
          rfl
      | ok ins =>
          by_cases tooWide : container.SourceTooWide form request.behavior
          · rw [applyRequest_of_tooWide located growable tooWide,
              asksSource_of_growable located growable]
          · rw [applyRequest_of_fits located growable tooWide] at failed
            cases failed

/-- A frame that cannot grow is not a number that is too wide. -/
theorem growableIns_ne_indexTooWide (key : MethodKey) (index : UInt32) :
    container.growableIns key ≠ .error (.indexTooWide index) := by
  intro refused
  rw [growableIns] at refused
  split at refused
  · cases refused
  · split at refused
    · cases refused
    · split at refused
      · cases refused
      · cases refused

/-- A request that fails has asked for the source exactly if the number of the source was too
wide. -/
theorem asksSource_iff_of_failed
    (failed : (container.applyRequest form request).1.isPatched = false) :
    container.asksSource request = true ↔
      ∃ index, (container.applyRequest form request).1.status =
        .assemblyFailed (.indexTooWide index) := by
  cases located : request.target? container with
  | none =>
      rw [applyRequest_of_notFound located, asksSource_of_notFound located]
      simp
  | some record =>
      cases growable : container.growableIns record.key with
      | error reason =>
          rw [applyRequest_of_error located growable, asksSource_of_error located growable]
          have otherwise (index : UInt32) : reason ≠ .indexTooWide index := by
            rintro rfl
            exact growableIns_ne_indexTooWide record.key index growable
          simp [otherwise]
      | ok ins =>
          by_cases tooWide : container.SourceTooWide form request.behavior
          · rw [applyRequest_of_tooWide located growable tooWide,
              asksSource_of_growable located growable, tooWide.1]
            simp
          · rw [applyRequest_of_fits located growable tooWide] at failed
            cases failed

/-- Without a request that fails, the requests leave the same but for the source that it may have
asked for. -/
theorem patchedBy_of_failed
    (failed : (container.outcomeOf form request).isPatched = false)
    (earlier later : List Request) :
    container.patchedBy form (earlier ++ request :: later) =
      (container.patchedBy form (earlier ++ later)).withSource form
        (container.asksSource request) := by
  have asksThen :
      (earlier ++ request :: later).any container.asksSource =
        ((earlier ++ later).any container.asksSource || container.asksSource request) := by
    rw [List.any_append, List.any_append, List.any_cons,
      Bool.or_comm (container.asksSource request), Bool.or_assoc]
  rw [patchedBy, patchedBy, asksThen, newBodies_of_not_patched failed, withSource_altered]

/-- A request that fails grows pools at most.  It leaves the container as it was, and changes
nothing for what the requests leave in the end, exactly if it fails for another reason than the
number of the source of the empty list, or if that source is there anyway. -/
theorem failed_isolated_iff
    {before after : Container}
    {outcome : Outcome}
    (earlier later : List Request)
    (closed : container.Closed)
    (reached : (container.applyRequests form earlier).2 = before)
    (applied : before.applyRequest form request = (outcome, after))
    (failed : outcome.isPatched = false) :
    before.Interned after ∧
      (after = before ↔
        (∀ index, outcome.status ≠ .assemblyFailed (.indexTooWide index)) ∨
          (before.findSource? form).isSome = true) ∧
        ((container.applyRequests form (earlier ++ request :: later)).2 =
            (container.applyRequests form (earlier ++ later)).2 ↔
          (∀ index, outcome.status ≠ .assemblyFailed (.indexTooWide index)) ∨
            ((container.applyRequests form (earlier ++ later)).2.findSource? form).isSome =
              true) := by
  rw [applyRequests_eq closed] at reached
  subst reached
  have isOutcome : ((container.patchedBy form earlier).applyRequest form request).1 = outcome := by
    rw [applied]
  have alone : container.outcomeOf form request = outcome := by
    rw [← isOutcome, applyRequest_patchedBy closed]
  have isAfter :
      after =
        (container.patchedBy form earlier).withSource form
          ((container.patchedBy form earlier).asksSource request) := by
    rw [← applyRequest_of_failed (isOutcome ▸ failed), applied]
  have quiet :
      (container.patchedBy form earlier).asksSource request = false ↔
        ∀ index, outcome.status ≠ .assemblyFailed (.indexTooWide index) := by
    rw [← Bool.not_eq_true, asksSource_iff_of_failed (isOutcome ▸ failed), isOutcome, not_exists]
  rw [applyRequests_eq closed, applyRequests_eq closed,
    patchedBy_of_failed (alone ▸ failed) earlier later, withSource_eq_self_iff, isAfter,
    withSource_eq_self_iff, ← quiet, asksSource_patchedBy closed]
  exact ⟨interned_withSource _ _ _, Iff.rfl, Iff.rfl⟩

/-! ## A pool of methods that is full -/

/-- The pair with so many more methods, which no class has. -/
def crowded (count : Nat) : Container :=
  { paired with
    methods :=
      paired.methods ++ Array.replicate count { declaringType := 0, proto := 1, name := 5 } }

/-- The methods are those of the pair. -/
theorem replaced_crowded (count : Nat) : Replaced (fun _ => none) paired (crowded count) where
  toExtends := { Extends.refl paired with methods := by simp [crowded] }
  classes := by
    rw [withBodies_none]
    rfl
  hiddenApi := rfl
  bodied := by simp

theorem inRange_crowded (count : Nat) : (crowded count).InRange where
  types := readable_paired.types
  protos := readable_paired.protos
  fields := readable_paired.fields
  methods := by
    intro id member
    rcases Array.mem_append.mp member with old | more
    · exact readable_paired.methods id old
    · rw [Array.eq_of_mem_replicate more]
      exact readable_paired.methods _ (by simp [paired])
  classes := by
    intro classDef member
    obtain ⟨type, superclass, interfaces, sourceFile, members⟩ :=
      readable_paired.classes classDef member
    refine ⟨type, superclass, interfaces, sourceFile, fun data isData => ?_⟩
    obtain ⟨fields, methods⟩ := members data isData
    refine ⟨fields, fun method isMethod => ?_⟩
    exact Nat.lt_of_lt_of_le (methods method isMethod) (replaced_crowded count).methods.length_le

theorem findSource?_crowded (count : Nat) : (crowded count).findSource? .invoke = none := by
  have isNew : (crowded count).findType? listSource = none := by
    have same : (crowded count).findType? listSource = paired.findType? listSource := rfl
    rw [same]
    decide +kernel
  rw [findSource?, findMethod?, isNew, Option.bind_none]

/-- The source is put behind all methods. -/
theorem internSource_crowded (count : Nat) :
    ((crowded count).internSource .invoke).1 = UInt32.ofNat (2 + count) := by
  let withType : Container :=
    { crowded count with
      strings := paired.strings.push (.ofText listSource)
      types := paired.types.push 6 }
  have newString : (crowded count).findString? listSource = none := by
    show paired.findString? listSource = none
    decide +kernel
  have newType : paired.types.findIdx? (· == 6) = none := by decide +kernel
  have listString : withType.findString? Behavior.listType = some 2 := by
    show ((paired.strings.push (.ofText listSource)).findIdx?
      (·.reads Behavior.listType)).map UInt32.ofNat = some 2
    decide +kernel
  have listType : withType.types.findIdx? (· == 2) = some 1 := by
    show (paired.types.push 6).findIdx? (· == 2) = some 1
    decide +kernel
  have isProto :
      (withType.protos.findIdx? fun proto => proto.returnType == 1 && proto.parameters == []) =
        some 0 := by
    show (paired.protos.findIdx? fun proto => proto.returnType == 1 && proto.parameters == []) =
      some 0
    decide +kernel
  have newName : withType.findString? "emptyList" = none := by
    show ((paired.strings.push (.ofText listSource)).findIdx?
      (·.reads "emptyList")).map UInt32.ofNat = none
    decide +kernel
  have newMethod :
      withType.methods.findIdx? (· == { declaringType := 3, proto := 0, name := 7 }) = none := by
    simp [withType, crowded, paired, Array.findIdx?_append, Array.findIdx?_replicate]
  have source : (crowded count).internType listSource = (3, withType) :=
    internType_of_new newString newType
  have list : withType.internType Behavior.listType = (1, withType) :=
    internType_of_found listString listType
  have proto : withType.internProto Behavior.listType [] = (0, withType) := by
    rw [internProto, list]
    dsimp only [internTypes]
    rw [isProto]
    rfl
  rw [internSource, internMethod, source]
  dsimp only
  rw [proto]
  dsimp only
  rw [internString_of_new newName]
  dsimp only
  rw [show UInt32.ofNat withType.strings.size = 7 from rfl, newMethod]
  simp [withType, crowded, paired]

/-- The list cannot be made empty, but its source is interned. -/
theorem applyRequest_crowded :
    (crowded 65534).applyRequest .invoke (.unqualified "a" .emptyList) =
      ({ methodName := "a", status := .assemblyFailed (.indexTooWide 65536) },
        (crowded 65534).withSource .invoke true) := by
  have located :
      ((Request.unqualified "a" .emptyList).target? paired).map (·.key) =
        some { classIndex := 0, kind := .virtual, position := 0 } := by
    decide +kernel
  obtain ⟨record, isTarget, isKey⟩ := Option.map_eq_some_iff.mp located
  have isTargetThen :=
    (replaced_crowded 65534).target?_eq readable_paired.toInRange.closed
      (.unqualified "a" .emptyList)
  rw [isTarget, Option.map_some] at isTargetThen
  have growable : (crowded 65534).growableIns record.key = .ok 1 := by
    rw [(replaced_crowded 65534).growableIns_eq, isKey]
    rfl
  have number : ((crowded 65534).internSource .invoke).1 = 65536 := internSource_crowded 65534
  have tooWide : (crowded 65534).SourceTooWide .invoke .emptyList := by
    refine ⟨rfl, ?_⟩
    rw [number]
    decide
  rw [applyRequest_of_tooWide isTargetThen growable tooWide, number]
  rfl

/-- Without the request that fails, the source of the empty list is not among the methods of the
crowded container, and so the request matters to what is left in the end. -/
theorem failed_isolated_iff_crowded :
    ((crowded 65534).Closed ∧
        ((crowded 65534).applyRequests .invoke []).2 = crowded 65534 ∧
          (crowded 65534).applyRequest .invoke (.unqualified "a" .emptyList) =
              ({ methodName := "a", status := .assemblyFailed (.indexTooWide 65536) },
                (crowded 65534).withSource .invoke true)) ∧
      (crowded 65534).Interned ((crowded 65534).withSource .invoke true) ∧
        ¬ ((crowded 65534).applyRequests .invoke [.unqualified "a" .emptyList]).2 =
            ((crowded 65534).applyRequests .invoke []).2 := by
  have closed := (inRange_crowded 65534).closed
  obtain ⟨grown, -, matters⟩ :=
    failed_isolated_iff [] [] closed rfl applyRequest_crowded rfl
  refine ⟨⟨closed, rfl, applyRequest_crowded⟩, grown, fun same => ?_⟩
  rcases matters.mp same with otherReason | there
  · exact otherReason 65536 rfl
  · rw [List.append_nil, applyRequests, findSource?_crowded] at there
    cases there

/-- A request can fail and leave another container than it was given. -/
theorem failed_not_isolated :
    (crowded 65534).InRange ∧
      ((crowded 65534).applyRequest .invoke (.unqualified "a" .emptyList)).1.status =
          .assemblyFailed (.indexTooWide 65536) ∧
        ((crowded 65534).applyRequest .invoke (.unqualified "a" .emptyList)).2 ≠
          crowded 65534 := by
  refine ⟨inRange_crowded 65534, ?_, fun same => ?_⟩
  · rw [applyRequest_crowded]
  · rw [applyRequest_crowded] at same
    rcases (withSource_eq_self_iff true).mp same with never | there
    · cases never
    · rw [findSource?_crowded] at there
      cases there

end Container

end DexPatch
