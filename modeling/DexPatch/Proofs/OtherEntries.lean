import DexPatch.Proofs.PatchedArchives

namespace DexPatch.Archive

/-!
# Entries beside the images

The entries of an archive that are no images are copied, and nothing that they
hold shows in what is reported or in the patched images.  But all entries are
opened before any is patched, so one that cannot be opened makes patching fail,
whatever its name.
-/

/-- What a run over an archive shows of the images: what it reports, and their names and contents in
the patched archive, if there is one.  A run that fails shows nothing. -/
def Run.shown (run : Run) :
    Option (List (String × Outcome) × Option (List (String × Except ArchiveError Bytes))) :=
  run.output.toOption.map fun output =>
    (run.outcomes,
      output.map fun written => written.imageEntries.map fun entry => (entry.name, entry.content))

/-- All entries beside the images can be opened. -/
def OthersOpen (archive : Archive) : Prop :=
  ∀ entry ∈ archive, ¬ IsImageName entry.name → entry.Opens

/-- What becomes of an entry that is no image: nothing. -/
def Copied (old new : Entry) : Prop := ¬ IsImageName old.name → new = old

/-- The images can be opened and read, and the runs over them end without an error. -/
def ImagesFinish (form : EmptyListForm) (requests : List Request) (archive : Archive) : Prop :=
  ∀ entry ∈ archive.imageEntries,
    entry.Opens ∧ entry.content = .ok entry.image ∧ entry.Finishes form requests

variable {form : EmptyListForm} {requests : List Request} {archive : Archive}

/-- A run ends without an error exactly if the images allow it and all others can be opened. -/
theorem patch_eq_ok_iff_others {output : Option Archive} :
    (patch form archive requests).output = .ok output ↔
      (archive.OthersOpen ∧ archive.ImagesFinish form requests) ∧
        output =
          replaced archive (archive.imageEntries.flatMap (Entry.replacement form requests)) := by
  rw [patch_eq_ok_iff]
  constructor
  · rintro ⟨opens, contents, finish, isOutput⟩
    exact ⟨⟨fun entry member _ => opens entry member,
      fun entry member =>
        ⟨opens entry (mem_imageEntries.mp member).1, contents entry member, finish entry member⟩⟩,
      isOutput⟩
  · rintro ⟨⟨others, images⟩, isOutput⟩
    refine ⟨fun entry member => ?_, fun entry member => (images entry member).2.1,
      fun entry member => (images entry member).2.2, isOutput⟩
    by_cases isImage : IsImageName entry.name
    · exact (images entry (mem_imageEntries.mpr ⟨member, isImage⟩)).1
    · exact others entry member isImage

/-- The images are replaced as they are where there are no other entries. -/
theorem imageEntries_replaced (patched : List (String × Bytes)) :
    (replaced archive patched).map imageEntries = replaced archive.imageEntries patched := by
  rw [replaced, replaced]
  split
  · rfl
  · rw [Option.map_some, imageEntries, List.filter_map]
    refine congrArg (fun images => some (List.map _ images)) (List.filter_congr fun entry _ => ?_)
    -- The new content of an entry leaves its name as it is.
    refine congrArg (fun name => decide (IsImageName name)) ?_
    dsimp only
    split <;> rfl

/-- What a run over an archive shows if it does not fail; the images tell it. -/
theorem shown_patch
    (others : archive.OthersOpen)
    (images : archive.ImagesFinish form requests) :
    (patch form archive requests).shown =
      some (archive.imageEntries.flatMap (Entry.reported form requests),
        (replaced archive.imageEntries
            (archive.imageEntries.flatMap (Entry.replacement form requests))).map fun written =>
          List.map (fun entry : Entry => (entry.name, entry.content)) written) := by
  have finished := patch_eq_ok_iff_others.mpr ⟨⟨others, images⟩, rfl⟩
  rw [Run.shown, finished, outcomes_of_patch finished, ← imageEntries_replaced, Option.map_map]
  rfl

/-- A run over an archive shows nothing exactly if another entry cannot be opened, or the images do
not allow it to end without an error. -/
theorem shown_patch_eq_none_iff :
    (patch form archive requests).shown = none ↔
      ¬ (archive.OthersOpen ∧ archive.ImagesFinish form requests) := by
  rw [Run.shown]
  cases finished : (patch form archive requests).output with
  | error reason =>
      simp only [Except.toOption, Option.map_none, true_iff]
      intro allowed
      rw [patch_eq_ok_iff_others.mpr ⟨allowed, rfl⟩] at finished
      cases finished
  | ok output =>
      simpa [Except.toOption] using (patch_eq_ok_iff_others.mp finished).1

/-- An entry that is no image stands in the patched archive as it stood before. -/
theorem forall₂_copied
    {written : Archive}
    (finished : (patch form archive requests).output = .ok (some written)) :
    List.Forall₂ Copied archive written := by
  obtain ⟨-, -, -, isWritten⟩ := patch_eq_ok_iff.mp finished
  rw [replaced] at isWritten
  split at isWritten
  · cases isWritten
  · rw [Option.some.inj isWritten, List.forall₂_map_right_iff, List.forall₂_same]
    intro entry member isOther
    rw [lookup_replacements_of_other isOther]

/-- Two runs over archives with the same images show the same exactly if all other entries of both
archives can be opened, or of neither, or if the images themselves make the runs fail.  Entries that
are no images are copied as they are. -/
theorem shown_patch_eq_iff
    (form : EmptyListForm)
    (requests : List Request)
    {archive other : Archive}
    (sameImages : archive.imageEntries = other.imageEntries) :
    ((patch form archive requests).shown = (patch form other requests).shown ↔
        (archive.ImagesFinish form requests → (archive.OthersOpen ↔ other.OthersOpen))) ∧
      ∀ written,
        (patch form archive requests).output = .ok (some written) →
          List.Forall₂ Copied archive written := by
  refine ⟨?_, fun written => forall₂_copied⟩
  have sameFinish : archive.ImagesFinish form requests ↔ other.ImagesFinish form requests := by
    rw [ImagesFinish, ImagesFinish, sameImages]
  constructor
  · intro same images
    have bothFail :
        (patch form archive requests).shown = none ↔ (patch form other requests).shown = none := by
      rw [same]
    rw [shown_patch_eq_none_iff, shown_patch_eq_none_iff, ← sameFinish, not_iff_not] at bothFail
    simpa [images] using bothFail
  · intro sameOthers
    by_cases images : archive.ImagesFinish form requests
    · by_cases others : archive.OthersOpen
      · rw [shown_patch others images,
          shown_patch ((sameOthers images).mp others) (sameFinish.mp images), sameImages]
      · have othersToo := mt (sameOthers images).mpr others
        rw [shown_patch_eq_none_iff.mpr fun allowed => others allowed.1,
          shown_patch_eq_none_iff.mpr fun allowed => othersToo allowed.1]
    · rw [shown_patch_eq_none_iff.mpr fun allowed => images allowed.2,
        shown_patch_eq_none_iff.mpr fun allowed => images (sameFinish.mpr allowed.2)]

/-! ## A note that cannot be opened -/

/-- A note that is encrypted, and an image behind it. -/
def sealedNote (image : Bytes) : Archive :=
  [{ Entry.plain "note.txt" #[0x6e] with encrypted := true }, .plain "classes.dex" image]

theorem imageEntries_sealedNote (image : Bytes) :
    (sealedNote image).imageEntries = (noted image).imageEntries := by
  have note : ¬ IsImageName "note.txt" := by decide +kernel
  have isImage : IsImageName "classes.dex" := by decide +kernel
  simp [sealedNote, noted, imageEntries, Entry.plain, note, isImage]

theorem othersOpen_noted (image : Bytes) : (noted image).OthersOpen :=
  fun entry member _ => opens_noted image entry member

theorem not_othersOpen_sealedNote (image : Bytes) : ¬ (sealedNote image).OthersOpen := by
  intro others
  have opens := others _ List.mem_cons_self (by decide +kernel)
  cases opens.plain

open Container in
theorem imagesFinish_noted :
    (noted paired.image).ImagesFinish .field
      [.unqualified "a" .emptyList, .unqualified "b" .constantFalse] := by
  intro entry member
  rw [imageEntries_noted, List.mem_singleton] at member
  subst member
  refine ⟨Entry.opens_plain _ _, ?_, ?_⟩
  · rw [Entry.content_plain, Entry.image_of_content (Entry.content_plain ..)]
  · rw [Entry.Finishes, run_plain]
    exact ⟨_, output_paired⟩

open Container in
/-- Without the note the run shows the same, and with the note encrypted it does not. -/
theorem shown_patch_eq_iff_noted :
    let requests := [Request.unqualified "a" .emptyList, .unqualified "b" .constantFalse]
    ((noted paired.image).imageEntries = imageEntries [.plain "classes.dex" paired.image] ∧
        (patch .field (noted paired.image) requests).shown =
          (patch .field [.plain "classes.dex" paired.image] requests).shown) ∧
      (noted paired.image).imageEntries = (sealedNote paired.image).imageEntries ∧
        (patch .field (noted paired.image) requests).shown ≠
          (patch .field (sealedNote paired.image) requests).shown := by
  intro requests
  have isImage : IsImageName "classes.dex" := by decide +kernel
  have alone :
      (noted paired.image).imageEntries = imageEntries [.plain "classes.dex" paired.image] := by
    rw [imageEntries_noted]
    simp [imageEntries, Entry.plain, isImage]
  have othersAlone : OthersOpen [.plain "classes.dex" paired.image] := by
    intro entry member
    rw [List.mem_singleton.mp member]
    exact fun _ => Entry.opens_plain _ _
  refine ⟨⟨alone, ?_⟩, (imageEntries_sealedNote _).symm, ?_⟩
  · exact (shown_patch_eq_iff .field requests alone).1.mpr fun _ =>
      ⟨fun _ => othersAlone, fun _ => othersOpen_noted _⟩
  · intro same
    have sameOthers :=
      (shown_patch_eq_iff .field requests (imageEntries_sealedNote paired.image).symm).1.mp same
        imagesFinish_noted
    exact not_othersOpen_sealedNote _ (sameOthers.mp (othersOpen_noted _))

open Container in
/-- Two archives that differ in a note only: the one with the note in plain is patched, and the one
with the note encrypted makes the run fail. -/
theorem patch_sealedNote_fails :
    let requests := [Request.unqualified "a" .emptyList, .unqualified "b" .constantFalse]
    (noted paired.image).imageEntries = (sealedNote paired.image).imageEntries ∧
      (patch .field (noted paired.image) requests).shown.isSome = true ∧
        (patch .field (sealedNote paired.image) requests).output =
          .error (.container .encrypted) := by
  intro requests
  refine ⟨(imageEntries_sealedNote _).symm, ?_, rfl⟩
  rw [shown_patch (othersOpen_noted _) imagesFinish_noted]
  rfl

end DexPatch.Archive
