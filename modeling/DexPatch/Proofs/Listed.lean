import DexPatch.Command.Dump
import DexPatch.Proofs.Headers
import DexPatch.Proofs.Independence
import DexPatch.Proofs.Repeated
import DexPatch.Text.Blank

namespace DexPatch

/-!
# Listed methods

The listing of an image has a line for each method that it shows, and one with
their number behind these.  The last column of a line names the behaviors that
fit its method.  A request finds the first method of a listing whose line names
its behavior and which agrees with the name and the qualifiers of the request,
and it is applied to this method and to no other.
-/

namespace Text

variable {separator : Char}

/-- A text is split at a separator inside it, and before and behind. -/
theorem splitAt_append_cons (front rest : List Char) :
    splitAt separator (front ++ separator :: rest) =
      splitAt separator front ++ splitAt separator rest := by
  induction front with
  | nil =>
      simp [splitAt]
  | cons c front inductionHypothesis =>
      rw [List.cons_append, splitAt, splitAt, inductionHypothesis]
      by_cases same : c = separator
      · rw [if_pos same, if_pos same, List.cons_append]
      · rw [if_neg same, if_neg same]
        cases pieces : splitAt separator front with
        | nil =>
            exact absurd pieces (splitAt_ne_nil separator front)
        | cons piece others =>
            rfl

/-- A text without a separator is one piece. -/
theorem splitAt_of_notMem {text : List Char} (clean : separator ∉ text) :
    splitAt separator text = [text] := by
  induction text with
  | nil =>
      rfl
  | cons c rest inductionHypothesis =>
      obtain ⟨different, cleanRest⟩ := not_or.mp (mt List.mem_cons.mpr clean)
      rw [splitAt, if_neg (Ne.symm different), inductionHypothesis cleanRest]

/-- Pieces without separators are what their text is split into. -/
theorem splitAt_intercalate
    {pieces : List (List Char)}
    (nonempty : pieces ≠ [])
    (clean : ∀ piece ∈ pieces, separator ∉ piece) :
    splitAt separator ([separator].intercalate pieces) = pieces := by
  induction pieces with
  | nil =>
      exact absurd rfl nonempty
  | cons piece others inductionHypothesis =>
      obtain ⟨cleanPiece, cleanOthers⟩ := List.forall_mem_cons.mp clean
      cases others with
      | nil =>
          simpa using splitAt_of_notMem cleanPiece
      | cons next others =>
          rw [List.intercalate_cons_cons, List.append_assoc, List.singleton_append,
            splitAt_append_cons, splitAt_of_notMem cleanPiece,
            inductionHypothesis (List.cons_ne_nil _ _) cleanOthers, List.singleton_append]

/-- What is in no piece and is not the separator is not between the pieces either. -/
theorem notMem_intercalate
    {c : Char}
    {pieces : List (List Char)}
    (different : c ≠ separator)
    (clean : ∀ piece ∈ pieces, c ∉ piece) :
    c ∉ [separator].intercalate pieces := by
  induction pieces with
  | nil =>
      simp
  | cons piece others inductionHypothesis =>
      obtain ⟨cleanPiece, cleanOthers⟩ := List.forall_mem_cons.mp clean
      cases others with
      | nil =>
          simpa using cleanPiece
      | cons next others =>
          have cleanRest := inductionHypothesis cleanOthers
          simp [List.intercalate_cons_cons, cleanPiece, different, cleanRest]

end Text

/-! ## The column of behaviors -/

/-- The names in the last column of a line. -/
def lastColumn (line : String) : List String :=
  let column := (Text.splitAt ' ' line.toList).getLastD []
  (Text.splitAt ',' column).map String.ofList

/-- What stands behind the last blank of a line is its last column. -/
theorem lastColumn_of_toList
    {line : String}
    {front column : List Char}
    (isLine : line.toList = front ++ ' ' :: column)
    (oneColumn : ' ' ∉ column) :
    lastColumn line = (Text.splitAt ',' column).map String.ofList := by
  rw [lastColumn, isLine, Text.splitAt_append_cons, Text.splitAt_of_notMem oneColumn,
    List.getLastD_concat]

namespace Behavior

/-- The name of a behavior is one piece of a line. -/
theorem notMem_name {separator : Char} (isSeparator : separator ∈ [' ', ',']) (behavior : Behavior) :
    separator ∉ behavior.name.toList := by
  rcases List.mem_pair.mp isSeparator with rfl | rfl <;> cases behavior <;> decide +kernel

theorem name_injective : Function.Injective name := by
  intro behavior other same
  have names := congrArg ofName? same
  rwa [ofName?_name, ofName?_name, Option.some.injEq] at names

end Behavior

namespace MethodRecord

variable {record : MethodRecord} {behavior : Behavior}

/-- The last column of a line names the behaviors that fit its method. -/
theorem mem_lastColumn_dumpLine :
    behavior.name ∈ lastColumn record.dumpLine ↔ behavior ∈ record.fittingBehaviors := by
  let names := record.fittingBehaviors.map fun behavior => behavior.name.toList
  have clean (separator : Char) (isSeparator : separator ∈ [' ', ',']) :
      ∀ name ∈ names, separator ∉ name :=
    List.forall_mem_map.mpr fun behavior _ => behavior.notMem_name isSeparator
  obtain ⟨front, isLine⟩ :
      ∃ front, record.dumpLine.toList = front ++ ' ' :: [','].intercalate names := by
    refine ⟨([' '].intercalate [("0x" ++ Text.hexPadded 4 record.access.toNat).toList,
      record.signature.toList, record.frameText.toList]), ?_⟩
    simp [dumpLine, names, List.intercalate_cons_cons, Function.comp_def]
  have oneColumn : ' ' ∉ [','].intercalate names :=
    Text.notMem_intercalate (by decide) (clean ' ' (by decide))
  rw [lastColumn_of_toList isLine oneColumn]
  by_cases none : record.fittingBehaviors = []
  · have nameless : behavior.name ≠ "" := by cases behavior <;> decide +kernel
    simpa [names, none, Text.splitAt] using nameless
  · rw [Text.splitAt_intercalate (by simpa [names] using none) (clean ',' (by decide))]
    simp [names, Function.comp_def, Behavior.name_injective.eq_iff]

end MethodRecord

/-! ## The lines of a listing -/

/-- Data that is read as an image does not begin as an archive. -/
theorem isArchive_of_decode
    {data : Bytes}
    {container : Container}
    (decoded : Container.decode data = .ok container) :
    Archive.isArchive data = false := by
  have named : Header.Demand.Met Version.accepted data .name := by
    cases failed : Header.Demand.firstFailed? Version.accepted data with
    | none =>
        exact Header.firstFailed?_eq_none_iff.mp failed .name
    | some demand =>
        have refused : readHeader data = .error (demand.error data) := by
          rw [Header.readHeader_eq, failed]
        rw [Header.decode_of_readHeader refused] at decoded
        cases decoded
  rw [Archive.isArchive, named.1]
  rfl

/-- The listing of an image is that of the container that is read from it. -/
theorem Dump.ofInput_of_decode
    {image : Bytes}
    {container : Container}
    (decoded : Container.decode image = .ok container)
    (all : Bool) :
    Dump.ofInput all image = { lines := container.dump all, failure := none } := by
  rw [Dump.ofInput, isArchive_of_decode decoded, if_neg Bool.false_ne_true, Dump.ofImage, decoded]

/-! ## The methods of a request -/

/-- A request is for the method of a record: the line of the method names the behavior, and the
method agrees with the name and the qualifiers of the request. -/
structure Request.IsFor (request : Request) (record : MethodRecord) : Prop where
  behavior : request.behavior.name ∈ lastColumn record.dumpLine
  name : record.name = request.methodName
  declaringType : ∀ descriptor ∈ request.declaringType, record.declaringType = descriptor
  parameterTypes : ∀ descriptors ∈ request.parameterTypes, record.parameterTypes = descriptors

namespace Request

variable {request : Request} {record : MethodRecord}

/-- A request fits the methods that it is for. -/
theorem fits_iff : request.fits record = true ↔ request.IsFor record := by
  constructor
  · intro found
    simp only [fits, Bool.and_eq_true, beq_iff_eq, Option.all_eq_true] at found
    obtain ⟨⟨⟨⟨name, returnType⟩, declaringType⟩, parameterTypes⟩, hasBody⟩ := found
    refine ⟨MethodRecord.mem_lastColumn_dumpLine.mpr ?_, name, declaringType, parameterTypes⟩
    rw [MethodRecord.fittingBehaviors, if_pos hasBody, List.mem_filter, returnType]
    exact ⟨by cases request.behavior <;> decide, beq_self_eq_true _⟩
  · rintro ⟨behavior, name, declaringType, parameterTypes⟩
    have fitting := MethodRecord.mem_lastColumn_dumpLine.mp behavior
    rw [MethodRecord.fittingBehaviors] at fitting
    split at fitting
    · next hasBody =>
      have returnType := eq_of_beq (List.mem_filter.mp fitting).2
      simp only [fits, Bool.and_eq_true, beq_iff_eq, Option.all_eq_true]
      exact ⟨⟨⟨⟨name, returnType.symm⟩, declaringType⟩, parameterTypes⟩, hasBody⟩
    · cases fitting

instance : Decidable (request.IsFor record) := decidable_of_iff _ fits_iff

/-- Every listing shows the methods that a request is for. -/
theorem IsFor.isShown (isFor : request.IsFor record) (all : Bool) :
    (all || !record.fittingBehaviors.isEmpty) = true := by
  have fitting := MethodRecord.mem_lastColumn_dumpLine.mp isFor.behavior
  rw [Bool.or_eq_true, Bool.not_eq_true', List.isEmpty_eq_false_iff]
  exact .inr (List.ne_nil_of_mem fitting)

variable {container : Container}

/-- A request finds in all methods what it finds in a listing. -/
theorem target?_eq_find?_dumped (all : Bool) :
    request.target? container = (container.dumped all).find? request.fits := by
  rw [target?, Container.dumped, List.find?_filter]
  refine List.find?_congr fun record _ => ?_
  cases fits : request.fits record with
  | false =>
      simp
  | true =>
      simpa using (fits_iff.mp fits).isShown all

/-- A request finds a method in a listing if it is for one of those that are listed. -/
theorem target?_isSome_iff (all : Bool) :
    (request.target? container).isSome = true ↔
      ∃ record ∈ container.dumped all, request.IsFor record := by
  rw [target?_eq_find?_dumped all, List.find?_isSome]
  simp only [fits_iff]

/-- A request finds the first method of a listing that it is for. -/
theorem target?_of_dumped
    {all : Bool}
    {earlier later : List MethodRecord}
    (listed : container.dumped all = earlier ++ record :: later)
    (isFor : request.IsFor record)
    (isFirst : ∀ other ∈ earlier, ¬ request.IsFor other) :
    request.target? container = some record := by
  rw [target?_eq_find?_dumped all, List.find?_eq_some_iff_append]
  refine ⟨fits_iff.mpr isFor, earlier, later, listed, fun other member => ?_⟩
  rw [Bool.not_eq_true', ← Bool.not_eq_true, fits_iff]
  exact isFirst other member

end Request

/-! ## Applying a request -/

namespace Container

variable {form : EmptyListForm} {request : Request} {record : MethodRecord} {container : Container}

/-- A request is applied to the method of a record and to no other: this method gets the canned body
of the behavior, or no method gets another body where none can be made for it. -/
inductive AppliedTo
    (form : EmptyListForm)
    (request : Request)
    (record : MethodRecord)
    (before : Container) :
    Outcome × Container → Prop where
  | patched
      {old new : Body}
      {after : Container}
      (isOld : before.body? record.key = some old)
      (replaced : Replaced (Function.update (fun _ => none) record.key (some new)) before after)
      (canned : after.Numbered → after.CannedBody form request.behavior old.ins new) :
      AppliedTo form request record before
        ({ methodName := request.methodName, status := .patched record.signature }, after)
  | failed
      {reason : AssemblyError}
      {after : Container}
      (refused : (before.replaceBody record.key request.behavior form).1 = .error reason)
      (kept : Replaced (fun _ => none) before after) :
      AppliedTo form request record before
        ({ methodName := request.methodName, status := .assemblyFailed reason }, after)

/-- A request is applied to the method that it finds. -/
theorem appliedTo_of_target?
    (located : request.target? container = some record) :
    AppliedTo form request record container (container.applyRequest form request) := by
  rw [applyRequest, located]
  dsimp only
  obtain ⟨grown, interned, result⟩ := container.replaceBody_spec record.key request.behavior form
  have kept := (Replaced.refl container).interned interned
  cases replaced : container.replaceBody record.key request.behavior form with
  | mk success after =>
      rw [replaced] at result
      cases success with
      | error reason =>
          obtain rfl : after = grown := result
          exact .failed (by rw [replaced]) kept
      | ok =>
          obtain ⟨old, new, isOld, sameIns, rfl, canned⟩ := result
          have isOldThen : grown.body? record.key = some old :=
            (kept.body?_of_none rfl).trans isOld
          have resized := grown.extends_setBody record.key (some new)
          exact .patched isOld (kept.setBody isOldThen sameIns) fun numbered =>
            resized.cannedBody (canned (resized.numbered numbered))

/-- The record of a request is that of the method at its key. -/
theorem record?_of_target? (located : request.target? container = some record) :
    container.record? record.key = some record := by
  obtain ⟨⟨key, method⟩, listed, rfl⟩ :=
    List.mem_map.mp (List.mem_of_find?_eq_some located)
  rw [record?, show (container.recordOf key method).key = key from rfl,
    mem_keyedMethods_iff.mp listed]
  rfl

/-- The listing of an image has the lines of the methods that it shows, in their order, and one with
their number.  A request ends with anything but a miss exactly if a method that it is for is listed,
and it is applied to the first of these in the order of the listing. -/
theorem applyRequest_of_dumped
    (form : EmptyListForm)
    (container : Container)
    (request : Request)
    (all : Bool) :
    ((∀ image,
          decode image = .ok container →
            Dump.ofInput all image = { lines := container.dump all, failure := none }) ∧
        container.dump all =
          (container.dumped all).map MethodRecord.dumpLine ++
            [s!"{(container.dumped all).length} of {container.records.length} methods"]) ∧
      ((container.applyRequest form request).1.status ≠ .notFound ↔
          ∃ record ∈ container.dumped all, request.IsFor record) ∧
        ∀ earlier record later,
          container.dumped all = earlier ++ record :: later →
            request.IsFor record →
              (∀ other ∈ earlier, ¬ request.IsFor other) →
                container.record? record.key = some record ∧
                  AppliedTo form request record container
                    (container.applyRequest form request) := by
  refine ⟨⟨fun image decoded => Dump.ofInput_of_decode decoded all, rfl⟩, ?_, ?_⟩
  · rw [← Request.target?_isSome_iff all]
    cases located : request.target? container with
    | none =>
        simp [applyRequest, located]
    | some record =>
        have applied :
            AppliedTo form request record container (container.applyRequest form request) :=
          appliedTo_of_target? located
        cases isResult : container.applyRequest form request with
        | mk outcome after =>
            rw [isResult] at applied
            cases applied <;> simp
  · intro earlier record later listed isFor isFirst
    have located := Request.target?_of_dumped listed isFor isFirst
    exact ⟨record?_of_target? located, appliedTo_of_target? located⟩

/-- The second of two listed methods is the one that returns a truth value. -/
theorem applyRequest_of_dumped_paired :
    let request := Request.unqualified "b" .constantFalse
    (decode paired.image = .ok paired ∧
        Dump.ofInput false paired.image =
          { lines :=
              ["0x0001 LC;->a()Ljava/util/List; regs=2 ins=1 units=2 RET_EMPTY_LIST",
                "0x0001 LC;->b()Z regs=2 ins=1 units=2 RET_FALSE,RET_TRUE", "2 of 2 methods"]
            failure := none }) ∧
      ∃ first second,
        (paired.dumped false = [first] ++ [second] ∧
            request.IsFor second ∧ ∀ other ∈ [first], ¬ request.IsFor other) ∧
          second.key = { classIndex := 0, kind := .virtual, position := 1 } ∧
            AppliedTo .invoke request second paired (paired.applyRequest .invoke request) := by
  intro request
  obtain ⟨⟨printed, -⟩, -, applies⟩ := applyRequest_of_dumped .invoke paired request false
  have lines :
      paired.dump false =
        ["0x0001 LC;->a()Ljava/util/List; regs=2 ins=1 units=2 RET_EMPTY_LIST",
          "0x0001 LC;->b()Z regs=2 ins=1 units=2 RET_FALSE,RET_TRUE", "2 of 2 methods"] := by
    decide +kernel
  have shown :
      (paired.dumped false).map (fun record => (record.key, request.fits record)) =
        [({ classIndex := 0, kind := .virtual, position := 0 }, false),
          ({ classIndex := 0, kind := .virtual, position := 1 }, true)] := by
    decide +kernel
  obtain ⟨first, rest, listed, isFirst, others⟩ := List.map_eq_cons_iff.mp shown
  obtain ⟨second, none, rfl, isSecond, nothing⟩ := List.map_eq_cons_iff.mp others
  obtain rfl := List.map_eq_nil_iff.mp nothing
  have isFor : request.IsFor second := Request.fits_iff.mp (Prod.mk.inj isSecond).2
  have isFirst : ∀ other ∈ [first], ¬ request.IsFor other := by
    intro other member
    rw [List.mem_singleton.mp member, ← Request.fits_iff, (Prod.mk.inj isFirst).2]
    exact Bool.false_ne_true
  obtain ⟨-, applied⟩ := applies [first] second [] listed isFor isFirst
  exact ⟨⟨decode_paired, lines ▸ printed paired.image decode_paired⟩, first, second,
    ⟨listed, isFor, isFirst⟩, (Prod.mk.inj isSecond).1, applied⟩

end Container

end DexPatch
