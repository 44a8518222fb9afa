import DexPatch.Command.Patch
import DexPatch.Proofs.WrittenArchives

namespace DexPatch

/-!
# Outcomes over an input

Of an image, one outcome is reported for every request.  Of an archive, one is
reported for every image and request, with the name of the image.  There is
new content exactly if a request is patched.
-/

/-! ## Images -/

namespace Container

theorem methodName_applyRequest
    (container : Container)
    (form : EmptyListForm)
    (request : Request) :
    (container.applyRequest form request).1.methodName = request.methodName := by
  rw [applyRequest]
  split
  · rfl
  · split <;> rfl

/-- The outcomes are those of the requests, in their order. -/
theorem methodNames_applyRequests
    (container : Container)
    (form : EmptyListForm)
    (requests : List Request) :
    (container.applyRequests form requests).1.map (·.methodName) =
      requests.map (·.methodName) := by
  induction requests generalizing container with
  | nil =>
      rfl
  | cons request rest inductionHypothesis =>
      rw [applyRequests, List.map_cons, List.map_cons, methodName_applyRequest,
        inductionHypothesis]

end Container

/-! ## Labels -/

/-- What a reported outcome is about: the name of the entry in an archive, and that of the method. -/
def label (reported : Option String × Outcome) : Option String × String :=
  (reported.1, reported.2.methodName)

/-- What the outcomes of requests over an image are about. -/
def Request.labels (requests : List Request) (entry : Option String) :
    List (Option String × String) :=
  requests.map fun request => (entry, request.methodName)

/-- What the outcomes of requests over an archive are about: all requests for each image. -/
def Archive.labels (archive : Archive) (requests : List Request) : List (Option String × String) :=
  archive.imageEntries.flatMap fun entry => Request.labels requests (some entry.name)

/-- What the outcomes of requests over an image or an archive are about. -/
def Patching.labels (input : Bytes) (requests : List Request) : List (Option String × String) :=
  if Archive.isArchive input then
    match Archive.read input with
    | .error _ => []
    | .ok archive => archive.labels requests
  else
    Request.labels requests none

variable {form : EmptyListForm} {requests : List Request}

/-- A run reports on all requests in their order, or on none and ends with an error. -/
theorem Run.labels_cases
    (form : EmptyListForm)
    (image : Bytes)
    (requests : List Request)
    (entry : Option String) :
    ((Run.ofImage form image requests).outcomes.map fun outcome => label (entry, outcome)) =
        Request.labels requests entry ∨
      (Run.ofImage form image requests).outcomes = [] ∧
        ∃ reason, (Run.ofImage form image requests).output = .error reason := by
  rw [Run.ofImage]
  cases Container.decode image with
  | error reason =>
      exact .inr ⟨rfl, _, rfl⟩
  | ok container =>
      refine .inl ?_
      have names := container.methodNames_applyRequests form requests
      simpa [label, Request.labels, Function.comp_def] using
        congrArg (List.map (Prod.mk entry)) names

/-- A run that ends without an error reports on all requests. -/
theorem Run.labels_of_output
    {image : Bytes}
    {output : Option Bytes}
    (finished : (Run.ofImage form image requests).output = .ok output)
    (entry : Option String) :
    ((Run.ofImage form image requests).outcomes.map fun outcome => label (entry, outcome)) =
      Request.labels requests entry := by
  rcases Run.labels_cases form image requests entry with all | ⟨-, reason, failed⟩
  · exact all
  · rw [failed] at finished
    cases finished

/-- A run reports on no other requests, and in no other order. -/
theorem Run.labels_isPrefix
    (form : EmptyListForm)
    (image : Bytes)
    (requests : List Request)
    (entry : Option String) :
    ((Run.ofImage form image requests).outcomes.map fun outcome => label (entry, outcome)) <+:
      Request.labels requests entry := by
  rcases Run.labels_cases form image requests entry with all | ⟨nothing, -⟩
  · rw [all]
  · rw [nothing]
    exact List.nil_prefix

namespace Archive

theorem labels_reported (form : EmptyListForm) (requests : List Request) (entry : Entry) :
    (entry.reported form requests).map (fun labelled => label (some labelled.1, labelled.2)) =
      (entry.run form requests).outcomes.map fun outcome => label (some entry.name, outcome) := by
  rw [Entry.reported, List.map_map]
  rfl

/-- The runs over images that end without an error report on all requests for each of them. -/
theorem labels_of_finishes
    {entries : List Entry}
    (finish : ∀ entry ∈ entries, entry.Finishes form requests) :
    (entries.flatMap (Entry.reported form requests)).map
        (fun labelled => label (some labelled.1, labelled.2)) =
      entries.flatMap fun entry => Request.labels requests (some entry.name) := by
  rw [List.map_flatMap]
  refine List.flatMap_congr fun entry member => ?_
  obtain ⟨output, finished⟩ := finish entry member
  rw [labels_reported]
  exact Run.labels_of_output finished _

/-- A run over an archive that ends without an error reports on all requests for each image. -/
theorem labels_of_output
    {archive : Archive}
    {output : Option Archive}
    (finished : (patch form archive requests).output = .ok output) :
    (patch form archive requests).outcomes.map
        (fun labelled => label (some labelled.1, labelled.2)) =
      archive.labels requests := by
  obtain ⟨-, -, finish, -⟩ := patch_eq_ok_iff.mp finished
  rw [outcomes_of_patch finished, labels_of_finishes finish, labels]

/-- A run over an archive reports on no other images and requests, and in no other order. -/
theorem labels_isPrefix (form : EmptyListForm) (archive : Archive) (requests : List Request) :
    (patch form archive requests).outcomes.map
        (fun labelled => label (some labelled.1, labelled.2)) <+:
      archive.labels requests := by
  cases isImages : images archive with
  | error reason =>
      rw [patch, isImages]
      exact List.nil_prefix
  | ok list =>
      obtain ⟨opens, contents, -⟩ := images_eq_ok_iff.mp isImages
      rw [patch_of_images opens contents, labels]
      rcases finishes_or_exists_first form requests archive.imageEntries with
        finish | ⟨earlier, entry, later, reason, isList, finish, stopped⟩
      · rw [patchImages_of_finishes finish]
        dsimp only
        rw [labels_of_finishes finish]
      · rw [isList, patchImages_of_error finish stopped]
        dsimp only
        rw [List.flatMap_append, List.map_append, labels_of_finishes finish, List.flatMap_append,
          List.prefix_append_right_inj, List.flatMap_singleton, List.flatMap_cons, labels_reported]
        exact (Run.labels_isPrefix ..).trans (List.prefix_append ..)

end Archive

/-! ## Inputs -/

namespace Patching

/-- Patching an image is running over it. -/
theorem ofInput_of_image
    {input : Bytes}
    (isImage : Archive.isArchive input = false) :
    ofInput form input requests =
      { reported := (Run.ofImage form input requests).outcomes.map fun outcome => (none, outcome)
        output := (Run.ofImage form input requests).output.mapError .patch } := by
  rw [ofInput, isImage]
  rfl

/-- Patching an archive is running over the entries that are read from it. -/
theorem ofInput_of_archive
    {input : Bytes}
    {archive : Archive}
    (isArchive : Archive.isArchive input = true)
    (isRead : Archive.read input = .ok archive) :
    ofInput form input requests =
      { reported :=
          (Archive.patch form archive requests).outcomes.map fun labelled =>
            (some labelled.1, labelled.2)
        output :=
          ((Archive.patch form archive requests).output.bind (·.mapM Archive.write)).mapError
            .archive } := by
  have runs : Archive.patchBytes form input requests = Archive.patch form archive requests := by
    unfold Archive.patchBytes
    rw [isRead]
  rw [ofInput, if_pos isArchive, runs]

/-- New bytes of an archive are what a patched archive is written as. -/
theorem exists_patched_of_output
    {input : Bytes}
    {archive : Archive}
    {output : Option Bytes}
    (isArchive : Archive.isArchive input = true)
    (isRead : Archive.read input = .ok archive)
    (finished : (ofInput form input requests).output = .ok output) :
    ∃ patched,
      (Archive.patch form archive requests).output = .ok patched ∧
        output.isSome = patched.isSome ∧
          ∀ content ∈ output, ∃ written ∈ patched, written.write = .ok content := by
  rw [ofInput_of_archive isArchive isRead] at finished
  obtain ⟨patched, isPatched, isWritten⟩ := bind_eq_ok_iff.mp (mapError_eq_ok_iff.mp finished)
  refine ⟨patched, isPatched, ?_⟩
  cases patched with
  | none =>
      obtain rfl := Except.ok.inj isWritten
      exact ⟨rfl, nofun⟩
  | some written =>
      obtain ⟨content, isContent, rfl⟩ := map_eq_ok_iff.mp isWritten
      refine ⟨rfl, ?_⟩
      rintro _ ⟨⟩
      exact ⟨written, rfl, isContent⟩

/-- Bytes that begin as an archive and cannot be read as one give an error, and nothing is
reported. -/
theorem ofInput_of_unreadable
    {input : Bytes}
    {reason : ArchiveError}
    (isArchive : Archive.isArchive input = true)
    (unreadable : Archive.read input = .error reason) :
    ofInput form input requests = { reported := [], output := .error (.archive reason) } := by
  have runs :
      Archive.patchBytes form input requests = { outcomes := [], output := .error reason } := by
    unfold Archive.patchBytes
    rw [unreadable]
  rw [ofInput, if_pos isArchive, runs]
  rfl

theorem labels_of_image
    {input : Bytes}
    (isImage : Archive.isArchive input = false) :
    labels input requests = Request.labels requests none := by
  rw [labels, isImage]
  rfl

theorem labels_of_archive
    {input : Bytes}
    {archive : Archive}
    (isArchive : Archive.isArchive input = true)
    (isRead : Archive.read input = .ok archive) :
    labels input requests = archive.labels requests := by
  rw [labels, if_pos isArchive, isRead]

/-- What is reported is about the images and requests in their order, and about all of them where
there is no error. -/
theorem labels_ofInput (form : EmptyListForm) (input : Bytes) (requests : List Request) :
    (ofInput form input requests).reported.map label <+: labels input requests ∧
      ∀ output, (ofInput form input requests).output = .ok output →
        (ofInput form input requests).reported.map label = labels input requests := by
  cases isArchive : Archive.isArchive input with
  | false =>
      rw [ofInput_of_image isArchive, labels_of_image isArchive, List.map_map]
      refine ⟨Run.labels_isPrefix form input requests none, fun output finished => ?_⟩
      exact Run.labels_of_output (mapError_eq_ok_iff.mp finished) none
  | true =>
      cases isRead : Archive.read input with
      | error reason =>
          rw [ofInput_of_unreadable isArchive isRead]
          exact ⟨List.nil_prefix, fun output finished => by cases finished⟩
      | ok archive =>
          rw [labels_of_archive isArchive isRead]
          refine ⟨?_, fun output finished => ?_⟩
          · rw [ofInput_of_archive isArchive isRead, List.map_map]
            exact Archive.labels_isPrefix form archive requests
          · obtain ⟨patched, isPatched, -⟩ := exists_patched_of_output isArchive isRead finished
            rw [ofInput_of_archive isArchive isRead, List.map_map]
            exact Archive.labels_of_output isPatched

/-- There is new content exactly if a request is patched. -/
theorem isSome_of_output
    {input : Bytes}
    {output : Option Bytes}
    (finished : (ofInput form input requests).output = .ok output) :
    output.isSome = true ↔
      0 < (ofInput form input requests).reported.countP (·.2.isPatched) := by
  cases isArchive : Archive.isArchive input with
  | false =>
      rw [ofInput_of_image isArchive] at finished ⊢
      rw [Run.isSome_of_output (mapError_eq_ok_iff.mp finished), anyPatched, List.any_eq_true,
        List.countP_map, List.countP_pos_iff]
      rfl
  | true =>
      cases isRead : Archive.read input with
      | error reason =>
          rw [ofInput_of_unreadable isArchive isRead] at finished
          cases finished
      | ok archive =>
          obtain ⟨patched, isPatched, same, -⟩ :=
            exists_patched_of_output isArchive isRead finished
          obtain ⟨-, -, finish, rfl⟩ := Archive.patch_eq_ok_iff.mp isPatched
          rw [same, ofInput_of_archive isArchive isRead, Archive.isSome_replaced finish,
            Archive.outcomes_of_patch isPatched, List.countP_map, List.countP_pos_iff]
          rfl

end Patching

/-- What the requests make of the content of an input: the image of the container that they leave, or
the bytes of the archive in which each image is replaced by what they make of it, which hold this
archive. -/
inductive PatchedFrom (form : EmptyListForm) (requests : List Request) (input : Bytes) :
    Bytes → Prop where
  | image
      {container : Container}
      {content : Bytes}
      (isImage : Archive.isArchive input = false)
      (decoded : Container.decode input = .ok container)
      (encoded : (container.applyRequests form requests).2.encode = .ok content) :
      PatchedFrom form requests input content
  | archive
      {archive written : Archive}
      {content : Bytes}
      (isArchive : Archive.isArchive input = true)
      (isRead : Archive.read input = .ok archive)
      (rewritten : List.Forall₂ (Entry.Rewritten form requests) archive written)
      (isWritten : written.write = .ok content)
      (held : content.size < capacity 8 → written.HeldIn content) :
      PatchedFrom form requests input content

/-- New content is what the requests make of the input. -/
theorem PatchedFrom.of_output
    {input content : Bytes}
    (finished : (Patching.ofInput form input requests).output = .ok (some content)) :
    PatchedFrom form requests input content := by
  cases isArchive : Archive.isArchive input with
  | false =>
      rw [Patching.ofInput_of_image isArchive] at finished
      have patched := mapError_eq_ok_iff.mp finished
      rw [Run.ofImage] at patched
      cases decoded : Container.decode input with
      | error reason =>
          rw [decoded] at patched
          cases patched
      | ok container =>
          rw [decoded] at patched
          exact .image isArchive decoded (Run.patchedImage_eq_some_iff.mp patched).2
  | true =>
      cases isRead : Archive.read input with
      | error reason =>
          rw [Patching.ofInput_of_unreadable isArchive isRead] at finished
          cases finished
      | ok archive =>
          obtain ⟨patched, isPatched, -, isWritten⟩ :=
            Patching.exists_patched_of_output isArchive isRead finished
          obtain ⟨written, rfl, isContent⟩ := isWritten content rfl
          obtain ⟨opens, -, finish, isReplaced⟩ := Archive.patch_eq_ok_iff.mp isPatched
          exact .archive isArchive isRead
            (Archive.forall₂_rewritten (Archive.uniquelyNamed_of_read isRead) opens finish
              isReplaced.symm)
            isContent (Archive.heldIn_of_patch isRead isPatched isContent)

end DexPatch
