import DexPatch.Archive.Patch
import DexPatch.Proofs.EntryContents
import DexPatch.Proofs.Repeated

namespace DexPatch

/-!
# Patched archives

Patching an archive is running over the content of each image in it.  What is
reported is what these runs report, one after the other; an image that a run
patches stands in the place of the old one, and every other entry is kept.
-/

/-- A run gives a new image exactly if it reports a request as patched. -/
theorem Run.isSome_of_output
    {form : EmptyListForm}
    {image : Bytes}
    {requests : List Request}
    {output : Option Bytes}
    (finished : (Run.ofImage form image requests).output = .ok output) :
    output.isSome = anyPatched (Run.ofImage form image requests).outcomes := by
  rw [Run.ofImage] at finished ⊢
  cases decoded : Container.decode image with
  | error reason =>
      rw [decoded] at finished
      cases finished
  | ok container =>
    rw [decoded] at finished
    dsimp only at finished ⊢
    rw [patchedImage] at finished
    split at finished
    · next patched =>
      rw [patched]
      split at finished
      · exact (Except.ok.inj finished) ▸ rfl
      · cases finished
    · next unpatched =>
      rw [Bool.not_eq_true] at unpatched
      exact (Except.ok.inj finished) ▸ unpatched.symm

namespace Entry

/-- The image that an entry holds: its content, where it can be read. -/
def image (entry : Entry) : Bytes := entry.content.toOption.getD #[]

theorem image_of_content {entry : Entry} {content : Bytes} (isContent : entry.content = .ok content) :
    entry.image = content := by
  rw [image, isContent]
  rfl

/-- The run over the image that an entry holds. -/
def run (form : EmptyListForm) (requests : List Request) (entry : Entry) : DexPatch.Run :=
  DexPatch.Run.ofImage form entry.image requests

/-- What the run over an entry reports, with the name of the entry. -/
def reported (form : EmptyListForm) (requests : List Request) (entry : Entry) :
    List (String × Outcome) :=
  (entry.run form requests).outcomes.map fun outcome => (entry.name, outcome)

/-- The run over an entry ends without an error. -/
def Finishes (form : EmptyListForm) (requests : List Request) (entry : Entry) : Prop :=
  ∃ output, (entry.run form requests).output = .ok output

/-- The new image that the run over an entry gives. -/
def newImage? (form : EmptyListForm) (requests : List Request) (entry : Entry) : Option Bytes :=
  (entry.run form requests).output.toOption.join

/-- The new image of an entry with its name, if there is one. -/
def replacement (form : EmptyListForm) (requests : List Request) (entry : Entry) :
    List (String × Bytes) :=
  (entry.newImage? form requests).toList.map fun image => (entry.name, image)

end Entry

namespace Archive

/-- The entries of an archive that are images. -/
def imageEntries (archive : Archive) : Archive :=
  archive.filter fun entry => IsImageName entry.name

theorem imageEntries_cons (entry : Entry) (rest : Archive) :
    imageEntries (entry :: rest) =
      if entry.isDex then entry :: imageEntries rest else imageEntries rest := by
  rw [imageEntries, List.filter_cons, Entry.isDex]
  simp only [Entry.isDexName_iff, decide_eq_true_eq]
  rfl

/-- The images can be read exactly if all entries can be opened and the images have contents. -/
theorem images_eq_ok_iff
    {archive : Archive}
    {list : List (Entry × Bytes)} :
    images archive = .ok list ↔
      (∀ entry ∈ archive, entry.Opens) ∧
        (∀ entry ∈ archive.imageEntries, entry.content = .ok entry.image) ∧
          list = archive.imageEntries.map fun entry => (entry, entry.image) := by
  induction archive generalizing list with
  | nil =>
      simp [images, imageEntries, eq_comm]
  | cons entry rest inductionHypothesis =>
      rw [images, bind_eq_ok_iff, imageEntries_cons, List.forall_mem_cons, Entry.opens_iff]
      by_cases isImage : entry.isDex = true
      · simp only [isImage, if_true, bind_eq_ok_iff, inductionHypothesis, List.forall_mem_cons,
          List.map_cons]
        constructor
        · rintro ⟨data, opened, content, isContent, others, ⟨open_, contents, rfl⟩, isList⟩
          obtain rfl := Entry.image_of_content isContent
          exact ⟨⟨⟨data, opened⟩, open_⟩, ⟨isContent, contents⟩, (Except.ok.inj isList).symm⟩
        · rintro ⟨⟨⟨data, opened⟩, open_⟩, ⟨isContent, contents⟩, rfl⟩
          exact ⟨data, opened, _, isContent, _, ⟨open_, contents, rfl⟩, rfl⟩
      · rw [if_neg isImage]
        simp only [isImage, Bool.false_eq_true, if_false, inductionHypothesis]
        constructor
        · rintro ⟨data, opened, open_, others⟩
          exact ⟨⟨⟨data, opened⟩, open_⟩, others⟩
        · rintro ⟨⟨⟨data, opened⟩, open_⟩, others⟩
          exact ⟨data, opened, open_, others⟩

/-- No two entries have the same name. -/
def UniquelyNamed (archive : Archive) : Prop :=
  List.Pairwise (fun entry other : Entry => entry.name ≠ other.name) archive

/-- A change that keeps the names keeps them apart. -/
theorem UniquelyNamed.map
    {archive : Archive}
    (unique : archive.UniquelyNamed)
    {change : Entry → Entry}
    (sameName : ∀ entry, (change entry).name = entry.name) :
    UniquelyNamed (List.map change archive) := by
  refine List.pairwise_map.mpr (unique.imp fun {first second} different => ?_)
  rwa [sameName, sameName]

/-- An entry that is added has a name of its own, or takes the place of the one with its name. -/
theorem UniquelyNamed.add
    {archive : Archive}
    (unique : archive.UniquelyNamed)
    (entry : Entry) :
    UniquelyNamed (add archive entry) := by
  rw [Archive.add]
  split
  · refine unique.map fun earlier => ?_
    split
    · next same => exact (eq_of_beq same).symm
    · rfl
  · next new =>
    refine List.pairwise_append.mpr ⟨unique, List.pairwise_singleton _ _, ?_⟩
    intro earlier member other isOther same
    rw [List.mem_singleton.mp isOther] at same
    exact new (List.any_eq_true.mpr ⟨earlier, member, beq_iff_eq.mpr same⟩)

theorem UniquelyNamed.foldl_add
    {archive : Archive}
    (unique : archive.UniquelyNamed)
    (entries : List Entry) :
    UniquelyNamed (entries.foldl Archive.add archive) := by
  induction entries generalizing archive with
  | nil =>
      exact unique
  | cons entry rest inductionHypothesis =>
      exact inductionHypothesis (unique.add entry)

/-- An archive that is read is made of entries to which its headers lead. -/
theorem exists_entries_of_read
    {data : Bytes}
    {archive : Archive}
    (isRead : read data = .ok archive) :
    ∃ directory entries,
      entries? data directory directory.count directory.start = some entries ∧
        archive = entries.foldl add [] := by
  have before (positions : Nat) (found : archiveBefore? data positions = some archive) :
      ∃ position, archiveAt? data position = some archive := by
    induction positions with
    | zero =>
        cases found
    | succ position inductionHypothesis =>
        rw [archiveBefore?] at found
        split at found
        · next here => exact ⟨position, here.trans found⟩
        · exact inductionHypothesis found
  unfold read at isRead
  cases found : archiveBefore? data (data.size + 1 - endSize) with
  | none =>
      rw [found] at isRead
      cases isRead
  | some earlier =>
      rw [found] at isRead
      obtain rfl := Except.ok.inj isRead
      obtain ⟨position, here⟩ := before _ found
      obtain ⟨directory, -, here⟩ := Option.bind_eq_some_iff.mp here
      obtain ⟨entries, listed, here⟩ := Option.bind_eq_some_iff.mp here
      exact ⟨directory, entries, listed, (Option.some.inj here).symm⟩

/-- No two entries of an archive that is read have the same name. -/
theorem uniquelyNamed_of_read
    {data : Bytes}
    {archive : Archive}
    (isRead : read data = .ok archive) :
    archive.UniquelyNamed := by
  obtain ⟨directory, entries, -, rfl⟩ := exists_entries_of_read isRead
  exact UniquelyNamed.foldl_add .nil entries

variable {form : EmptyListForm} {requests : List Request}

/-- The runs over images that all end without an error. -/
theorem patchImages_of_finishes
    {entries : List Entry}
    (finish : ∀ entry ∈ entries, entry.Finishes form requests) :
    patchImages form requests (entries.map fun entry => (entry, entry.image)) =
      (entries.flatMap (Entry.reported form requests),
        .ok (entries.flatMap (Entry.replacement form requests))) := by
  induction entries with
  | nil =>
      rfl
  | cons entry rest inductionHypothesis =>
      obtain ⟨⟨output, finished⟩, others⟩ := List.forall_mem_cons.mp finish
      have replaced :
          entry.replacement form requests = output.toList.map fun image => (entry.name, image) := by
        rw [Entry.replacement, Entry.newImage?, finished]
        rfl
      rw [Entry.run] at finished
      rw [List.map_cons, patchImages, finished, inductionHypothesis others]
      dsimp only
      rw [← replaced]
      rfl

/-- The runs over images end at the first that ends with an error. -/
theorem patchImages_of_error
    {earlier later : List Entry}
    {entry : Entry}
    {reason : PatchError}
    (finish : ∀ other ∈ earlier, other.Finishes form requests)
    (stopped : (entry.run form requests).output = .error reason) :
    patchImages form requests
        ((earlier ++ entry :: later).map fun entry => (entry, entry.image)) =
      ((earlier ++ [entry]).flatMap (Entry.reported form requests),
        .error (.entry entry.name reason)) := by
  induction earlier with
  | nil =>
      rw [Entry.run] at stopped
      rw [List.nil_append, List.map_cons, patchImages, stopped]
      simp [Entry.reported, Entry.run]
  | cons first earlier inductionHypothesis =>
      obtain ⟨⟨output, finished⟩, others⟩ := List.forall_mem_cons.mp finish
      rw [Entry.run] at finished
      rw [List.cons_append, List.map_cons, patchImages, finished, inductionHypothesis others]
      rfl

/-- Either all runs end without an error, or there is a first that does not. -/
theorem finishes_or_exists_first
    (form : EmptyListForm)
    (requests : List Request)
    (entries : List Entry) :
    (∀ entry ∈ entries, entry.Finishes form requests) ∨
      ∃ earlier entry later reason,
        entries = earlier ++ entry :: later ∧
          (∀ other ∈ earlier, other.Finishes form requests) ∧
            (entry.run form requests).output = .error reason := by
  induction entries with
  | nil =>
      exact .inl (by simp)
  | cons entry rest inductionHypothesis =>
      cases ends : (entry.run form requests).output with
      | error reason =>
          exact .inr ⟨[], entry, rest, reason, rfl, by simp, ends⟩
      | ok output =>
          rcases inductionHypothesis with all | ⟨earlier, other, later, reason, rfl, finish, stopped⟩
          · exact .inl (List.forall_mem_cons.mpr ⟨⟨output, ends⟩, all⟩)
          · exact .inr ⟨entry :: earlier, other, later, reason, rfl,
              List.forall_mem_cons.mpr ⟨⟨output, ends⟩, finish⟩, stopped⟩

/-! ## Replaced entries -/

/-- Nothing is found under the name of another entry. -/
theorem lookup_replacement_of_ne
    {entry : Entry}
    {name : String}
    (different : name ≠ entry.name) :
    (entry.replacement form requests).lookup name = none := by
  rw [Entry.replacement, List.lookup_eq_none_iff]
  intro labelled member
  obtain ⟨image, -, rfl⟩ := List.mem_map.mp member
  simpa using different

/-- Nothing is found under the name of none of the entries. -/
theorem lookup_replacements_of_notMem
    {entries : List Entry}
    {name : String}
    (other : ∀ entry ∈ entries, name ≠ entry.name) :
    (entries.flatMap (Entry.replacement form requests)).lookup name = none := by
  induction entries with
  | nil =>
      rfl
  | cons first rest inductionHypothesis =>
      obtain ⟨different, others⟩ := List.forall_mem_cons.mp other
      rw [List.flatMap_cons, List.lookup_append, lookup_replacement_of_ne different,
        inductionHypothesis others, Option.or_none]

/-- Where names are unique, the new image of an entry is found under its name. -/
theorem lookup_replacements
    {entries : List Entry}
    (unique : entries.Pairwise fun entry other => entry.name ≠ other.name)
    {entry : Entry}
    (member : entry ∈ entries) :
    (entries.flatMap (Entry.replacement form requests)).lookup entry.name =
      entry.newImage? form requests := by
  have own :
      (entry.replacement form requests).lookup entry.name = entry.newImage? form requests := by
    rw [Entry.replacement]
    cases entry.newImage? form requests <;> simp
  induction entries with
  | nil =>
      cases member
  | cons first rest inductionHypothesis =>
      obtain ⟨different, uniqueRest⟩ := List.pairwise_cons.mp unique
      rw [List.flatMap_cons, List.lookup_append]
      rcases List.mem_cons.mp member with rfl | later
      · rw [own, lookup_replacements_of_notMem different, Option.or_none]
      · rw [lookup_replacement_of_ne (different entry later).symm, Option.none_or,
          inductionHypothesis uniqueRest later]

end Archive

namespace Entry

variable {form : EmptyListForm} {requests : List Request} {entry : Entry}

/-- The run over an entry gives a new image if it reports a request as patched. -/
theorem Finishes.newImage?_isSome (finishes : entry.Finishes form requests) :
    (entry.newImage? form requests).isSome = anyPatched (entry.run form requests).outcomes := by
  obtain ⟨output, finished⟩ := finishes
  rw [newImage?, finished]
  exact DexPatch.Run.isSome_of_output finished

/-- A new image is what the run over the entry gives. -/
theorem Finishes.output_of_newImage?
    (finishes : entry.Finishes form requests)
    {image : Bytes}
    (isNew : entry.newImage? form requests = some image) :
    (entry.run form requests).output = .ok (some image) := by
  obtain ⟨output, finished⟩ := finishes
  rw [newImage?, finished] at isNew
  rw [finished, show output = some image from isNew]

/-- What stands in the place of an entry in the patched archive.  An image with a request that is
patched has the new image of its own run as content, in the form that it had.  Every other entry is
kept as it is. -/
structure Rewritten
    (form : EmptyListForm)
    (requests : List Request)
    (old new : Entry) :
    Prop where
  name : new.name = old.name
  compression : new.compression = old.compression
  patched :
    IsImageName old.name →
      anyPatched (old.run form requests).outcomes = true →
        ∃ image, (old.run form requests).output = .ok (some image) ∧ new.content = .ok image
  kept :
    ¬ (IsImageName old.name ∧ anyPatched (old.run form requests).outcomes = true) → new = old

theorem Rewritten.refl
    (unpatched :
      ¬ (IsImageName entry.name ∧ anyPatched (entry.run form requests).outcomes = true)) :
    entry.Rewritten form requests entry where
  name := rfl
  compression := rfl
  patched := fun isImage patched => (unpatched ⟨isImage, patched⟩).elim
  kept := fun _ => rfl

theorem Rewritten.withContent
    {image : Bytes}
    (opens : entry.Opens)
    (finishes : entry.Finishes form requests)
    (isImage : IsImageName entry.name)
    (isNew : entry.newImage? form requests = some image) :
    entry.Rewritten form requests (entry.withContent image) where
  name := rfl
  compression := rfl
  patched := fun _ _ =>
    ⟨image, finishes.output_of_newImage? isNew, content_withContent opens image⟩
  kept := fun unpatched => by
    refine (unpatched ⟨isImage, ?_⟩).elim
    rw [← finishes.newImage?_isSome, isNew]
    rfl

end Entry

namespace Archive

variable {form : EmptyListForm} {requests : List Request} {archive : Archive}

theorem mem_imageEntries {entry : Entry} :
    entry ∈ archive.imageEntries ↔ entry ∈ archive ∧ IsImageName entry.name := by
  simp [imageEntries]

/-- No new image is found under the name of an entry that is no image. -/
theorem lookup_replacements_of_other
    {name : String}
    (isOther : ¬ IsImageName name) :
    (archive.imageEntries.flatMap (Entry.replacement form requests)).lookup name = none := by
  refine lookup_replacements_of_notMem fun image isImage same => ?_
  exact isOther (same ▸ (mem_imageEntries.mp isImage).2)

/-- There is a patched archive exactly if a run reports a request as patched. -/
theorem isSome_replaced
    (finish : ∀ entry ∈ archive.imageEntries, entry.Finishes form requests) :
    (replaced archive (archive.imageEntries.flatMap (Entry.replacement form requests))).isSome =
        true ↔
      ∃ labelled ∈ archive.imageEntries.flatMap (Entry.reported form requests),
        labelled.2.isPatched = true := by
  have anyNew :
      (replaced archive
            (archive.imageEntries.flatMap (Entry.replacement form requests))).isSome = true ↔
        ∃ entry ∈ archive.imageEntries, (entry.newImage? form requests).isSome = true := by
    rw [replaced]
    split
    · next nothing =>
      simpa [Entry.replacement] using nothing
    · next something =>
      simpa [Entry.replacement, Option.isSome_iff_ne_none] using something
  rw [anyNew]
  constructor
  · rintro ⟨entry, member, isNew⟩
    rw [(finish entry member).newImage?_isSome, anyPatched, List.any_eq_true] at isNew
    obtain ⟨outcome, reported, patched⟩ := isNew
    exact ⟨(entry.name, outcome),
      List.mem_flatMap.mpr ⟨entry, member, List.mem_map.mpr ⟨outcome, reported, rfl⟩⟩, patched⟩
  · rintro ⟨labelled, member, patched⟩
    obtain ⟨entry, isEntry, reported⟩ := List.mem_flatMap.mp member
    obtain ⟨outcome, isOutcome, rfl⟩ := List.mem_map.mp reported
    refine ⟨entry, isEntry, ?_⟩
    rw [(finish entry isEntry).newImage?_isSome, anyPatched, List.any_eq_true]
    exact ⟨outcome, isOutcome, patched⟩

/-- In the patched archive every entry stands where it stood. -/
theorem forall₂_rewritten
    (unique : archive.UniquelyNamed)
    (opens : ∀ entry ∈ archive, entry.Opens)
    (finish : ∀ entry ∈ archive.imageEntries, entry.Finishes form requests)
    {written : Archive}
    (isWritten :
      replaced archive (archive.imageEntries.flatMap (Entry.replacement form requests)) =
        some written) :
    List.Forall₂ (Entry.Rewritten form requests) archive written := by
  have uniqueImages :
      archive.imageEntries.Pairwise fun entry other => entry.name ≠ other.name :=
    unique.sublist List.filter_sublist
  rw [replaced] at isWritten
  split at isWritten
  · cases isWritten
  · obtain rfl := Option.some.inj isWritten
    rw [List.forall₂_map_right_iff, List.forall₂_same]
    intro entry member
    by_cases isImage : IsImageName entry.name
    · have listed := mem_imageEntries.mpr ⟨member, isImage⟩
      have finishes := finish entry listed
      rw [lookup_replacements uniqueImages listed]
      cases isNew : entry.newImage? form requests with
      | none =>
          refine .refl fun patched => ?_
          rw [← finishes.newImage?_isSome, isNew] at patched
          exact Bool.false_ne_true patched.2
      | some image =>
          exact .withContent (opens entry member) finishes isImage isNew
    · rw [lookup_replacements_of_other isImage]
      exact .refl fun patched => isImage patched.1

/-- Where all entries can be opened and all images have contents, the runs are over these. -/
theorem patch_of_images
    (opens : ∀ entry ∈ archive, entry.Opens)
    (contents : ∀ entry ∈ archive.imageEntries, entry.content = .ok entry.image) :
    patch form archive requests =
      { outcomes :=
          (patchImages form requests
            (archive.imageEntries.map fun entry => (entry, entry.image))).1
        output :=
          (patchImages form requests
              (archive.imageEntries.map fun entry => (entry, entry.image))).2.map
            (replaced archive) } := by
  rw [patch, images_eq_ok_iff.mpr ⟨opens, contents, rfl⟩]

/-- A run over an archive ends without an error exactly if all its entries can be opened, its images
have contents and the runs over them end without an error. -/
theorem patch_eq_ok_iff {output : Option Archive} :
    (patch form archive requests).output = .ok output ↔
      (∀ entry ∈ archive, entry.Opens) ∧
        (∀ entry ∈ archive.imageEntries, entry.content = .ok entry.image) ∧
          (∀ entry ∈ archive.imageEntries, entry.Finishes form requests) ∧
            output =
              replaced archive
                (archive.imageEntries.flatMap (Entry.replacement form requests)) := by
  constructor
  · intro finished
    cases isImages : images archive with
    | error reason =>
        rw [patch, isImages] at finished
        cases finished
    | ok list =>
        obtain ⟨opens, contents, -⟩ := images_eq_ok_iff.mp isImages
        rw [patch_of_images opens contents] at finished
        rcases finishes_or_exists_first form requests archive.imageEntries with
          finish | ⟨earlier, entry, later, reason, isList, finish, stopped⟩
        · rw [patchImages_of_finishes finish] at finished
          exact ⟨opens, contents, finish, (Except.ok.inj finished).symm⟩
        · rw [isList, patchImages_of_error finish stopped] at finished
          cases finished
  · rintro ⟨opens, contents, finish, rfl⟩
    rw [patch_of_images opens contents, patchImages_of_finishes finish]
    rfl

/-- A run over an archive that ends without an error reports what the runs over its images do. -/
theorem outcomes_of_patch
    {output : Option Archive}
    (finished : (patch form archive requests).output = .ok output) :
    (patch form archive requests).outcomes =
      archive.imageEntries.flatMap (Entry.reported form requests) := by
  obtain ⟨opens, contents, finish, -⟩ := patch_eq_ok_iff.mp finished
  rw [patch_of_images opens contents, patchImages_of_finishes finish]

/-- Patching an archive is running over each of its images.  If it succeeds it reports what these runs
report, in the order of the entries; there is a patched archive exactly if a request is patched, and
it has every entry in its place, as its own run leaves it.  If all entries can be read it succeeds,
or it ends with the error of the first entry whose run ends with one. -/
theorem patch_entry_by_entry
    (form : EmptyListForm)
    (requests : List Request)
    {archive : Archive}
    (unique : archive.UniquelyNamed) :
    (∀ data, read data = .ok archive →
        patchBytes form data requests = patch form archive requests) ∧
      (∀ output, (patch form archive requests).output = .ok output →
        (∀ entry ∈ archive.imageEntries, entry.content = .ok entry.image) ∧
          (patch form archive requests).outcomes =
            archive.imageEntries.flatMap (Entry.reported form requests) ∧
          (output.isSome = true ↔
            ∃ labelled ∈ (patch form archive requests).outcomes, labelled.2.isPatched = true) ∧
          ∀ written ∈ output, List.Forall₂ (Entry.Rewritten form requests) archive written) ∧
      ((∀ entry ∈ archive, entry.Opens) →
        (∀ entry ∈ archive.imageEntries, ∃ content, entry.content = .ok content) →
        ((∀ entry ∈ archive.imageEntries, entry.Finishes form requests) ∧
            ∃ output, (patch form archive requests).output = .ok output) ∨
          ∃ earlier entry later reason,
            archive.imageEntries = earlier ++ entry :: later ∧
              (∀ other ∈ earlier, other.Finishes form requests) ∧
                (entry.run form requests).output = .error reason ∧
                  (patch form archive requests).output = .error (.entry entry.name reason)) := by
  refine ⟨fun data isRead => ?_, fun output finished => ?_, fun opens readable => ?_⟩
  · unfold patchBytes
    rw [isRead]
  · obtain ⟨opens, contents, finish, isOutput⟩ := patch_eq_ok_iff.mp finished
    rw [outcomes_of_patch finished]
    refine ⟨contents, rfl, ?_, fun written isWritten => ?_⟩
    · rw [isOutput]
      exact isSome_replaced finish
    · rw [Option.mem_def.mp isWritten] at isOutput
      exact forall₂_rewritten unique opens finish isOutput.symm
  · have contents : ∀ entry ∈ archive.imageEntries, entry.content = .ok entry.image := by
      intro entry member
      obtain ⟨content, isContent⟩ := readable entry member
      rw [isContent, Entry.image_of_content isContent]
    rcases finishes_or_exists_first form requests archive.imageEntries with
      finish | ⟨earlier, entry, later, reason, isList, finish, stopped⟩
    · exact .inl ⟨finish, _, patch_eq_ok_iff.mpr ⟨opens, contents, finish, rfl⟩⟩
    · refine .inr ⟨earlier, entry, later, reason, isList, finish, stopped, ?_⟩
      rw [patch_of_images opens contents, isList, patchImages_of_error finish stopped]
      rfl

/-! ## A note beside an image -/

/-- A note, and an image behind it. -/
def noted (image : Bytes) : Archive := [.plain "note.txt" #[0x6e], .plain "classes.dex" image]

theorem imageEntries_noted (image : Bytes) :
    (noted image).imageEntries = [.plain "classes.dex" image] := by
  have note : ¬ IsImageName "note.txt" := by decide +kernel
  have isImage : IsImageName "classes.dex" := by decide +kernel
  simp [noted, imageEntries, Entry.plain, note, isImage]

theorem uniquelyNamed_noted (image : Bytes) : (noted image).UniquelyNamed :=
  List.pairwise_pair.mpr (by simp [Entry.plain])

theorem opens_noted (image : Bytes) : ∀ entry ∈ noted image, entry.Opens := by
  simp [noted, Entry.opens_plain]

theorem run_plain (name : String) (image : Bytes) :
    (Entry.plain name image).run form requests = DexPatch.Run.ofImage form image requests := by
  rw [Entry.run, Entry.image_of_content (Entry.content_plain name image)]

open Container in
/-- Both requests are patched in the image beside the note, and the note is kept. -/
theorem patch_noted_paired :
    patch .field (noted paired.image)
        [.unqualified "a" .emptyList, .unqualified "b" .constantFalse] =
      { outcomes :=
          [("classes.dex", { methodName := "a", status := .patched "LC;->a()Ljava/util/List;" }),
            ("classes.dex", { methodName := "b", status := .patched "LC;->b()Z" })]
        output := .ok (some (noted pairedPatched.canonical.image)) } := by
  have outcomes :
      (DexPatch.Run.ofImage .field paired.image
          [.unqualified "a" .emptyList, .unqualified "b" .constantFalse]).outcomes =
        [{ methodName := "a", status := .patched "LC;->a()Ljava/util/List;" },
          { methodName := "b", status := .patched "LC;->b()Z" }] := by
    rw [DexPatch.Run.ofImage_of_decode decode_paired, applyRequests_paired]
  have contents :
      ∀ entry ∈ (noted paired.image).imageEntries, entry.content = .ok entry.image := by
    rw [imageEntries_noted, List.forall_mem_singleton, Entry.content_plain,
      Entry.image_of_content (Entry.content_plain ..)]
  have finish :
      ∀ entry ∈ (noted paired.image).imageEntries,
        entry.Finishes .field [.unqualified "a" .emptyList, .unqualified "b" .constantFalse] := by
    rw [imageEntries_noted, List.forall_mem_singleton, Entry.Finishes, run_plain]
    exact ⟨_, output_paired⟩
  rw [patch_of_images (opens_noted _) contents, patchImages_of_finishes finish, imageEntries_noted,
    List.flatMap_singleton, List.flatMap_singleton, Entry.reported, Entry.replacement,
    Entry.newImage?, run_plain, outcomes, output_paired]
  rfl

open Container in
/-- Both requests are patched in the image beside the note, and bytes that are no image are named in
the error. -/
theorem patch_entry_by_entry_noted :
    let requests := [Request.unqualified "a" .emptyList, .unqualified "b" .constantFalse]
    ((noted paired.image).UniquelyNamed ∧
        ∃ written,
          (patch .field (noted paired.image) requests).output = .ok (some written) ∧
            List.Forall₂ (Entry.Rewritten .field requests) (noted paired.image) written ∧
              (patch .field (noted paired.image) requests).outcomes =
                [("classes.dex",
                    { methodName := "a", status := .patched "LC;->a()Ljava/util/List;" }),
                  ("classes.dex", { methodName := "b", status := .patched "LC;->b()Z" })]) ∧
      (noted #[]).UniquelyNamed ∧
        (patch .field (noted #[]) requests).output =
          .error (.entry "classes.dex" (.decode (.unexpectedEnd 112))) := by
  intro requests
  have patched := patch_noted_paired
  obtain ⟨-, success, -⟩ := patch_entry_by_entry .field requests (uniquelyNamed_noted paired.image)
  have finished := congrArg Run.output patched
  obtain ⟨-, -, -, rewritten⟩ := success _ finished
  obtain ⟨-, -, failure⟩ := patch_entry_by_entry .field requests (uniquelyNamed_noted #[])
  have notImage :
      ((Entry.plain "classes.dex" #[]).run .field requests).output =
        .error (.decode (.unexpectedEnd 112)) := by
    rw [run_plain]
    rfl
  have readable :
      ∀ entry ∈ (noted #[]).imageEntries, ∃ content, entry.content = .ok content := by
    rw [imageEntries_noted, List.forall_mem_singleton]
    exact ⟨_, Entry.content_plain ..⟩
  obtain ⟨earlier, entry, later, reason, isList, -, stopped, failed⟩ :=
    (failure (opens_noted #[]) readable).resolve_left fun succeeds => by
      obtain ⟨output, finished⟩ :=
        succeeds.1 (.plain "classes.dex" #[]) (by simp [imageEntries_noted])
      rw [notImage] at finished
      cases finished
  rw [imageEntries_noted] at isList
  obtain ⟨rfl, rfl, rfl⟩ : earlier = [] ∧ entry = .plain "classes.dex" #[] ∧ later = [] := by
    simpa [List.append_eq_singleton_iff] using isList.symm
  rw [notImage] at stopped
  obtain rfl := Except.error.inj stopped
  exact ⟨⟨uniquelyNamed_noted _, _, finished, rewritten _ rfl, congrArg Run.outcomes patched⟩,
    uniquelyNamed_noted _, failed⟩

end Archive

end DexPatch
