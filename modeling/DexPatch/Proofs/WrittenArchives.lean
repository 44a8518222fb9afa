import DexPatch.Proofs.PatchedArchives
import DexPatch.Proofs.WrittenEntries

namespace DexPatch.Archive

/-!
# Archives that are written are read back

The headers of the directory lead to the entries, one after the other, and the
records behind the directory lead to the directory.  So an archive is read from
its bytes as it was.  There is one exception: a record can be full without a
wide record in front of it, and then readers look for a locator, which the end
of the directory can be mistaken for.
-/

open FieldReading (tooLarge)

variable {data : Bytes} {offset place : Nat} {list : List Entry}

/-! ## Entries and their headers -/

/-- The bytes of an entry: its header, and the stored form of its content. -/
def entryBytes (entry : Entry) : List UInt8 := entryHeader entry ++ (storedForm entry).toList

/-- The headers of entries the first of which is at a place. -/
def headersFrom (place : Nat) : List Entry → List UInt8
  | [] => []
  | entry :: rest =>
    directoryHeader entry place ++ headersFrom (place + (entryBytes entry).length) rest

theorem foldl_add_written (written : Written) (list : List Entry) :
    (list.foldl Written.add written).entries.toList =
        written.entries.toList ++ list.flatMap entryBytes ∧
      (list.foldl Written.add written).directory.toList =
        written.directory.toList ++ headersFrom written.entries.size list := by
  induction list generalizing written with
  | nil =>
      simp [headersFrom]
  | cons entry rest inductionHypothesis =>
      obtain ⟨entries, directory⟩ := inductionHypothesis (written.add entry)
      have size :
          (written.add entry).entries.size = written.entries.size + (entryBytes entry).length := by
        rw [← Array.length_toList, Written.add, Array.toList_append, Array.toList_appendList]
        simp [entryBytes]
      rw [List.foldl_cons, entries, directory, size]
      simp [Written.add, entryBytes, headersFrom]

/-- The bytes of an archive: its entries, their headers and the records behind these. -/
theorem toList_bytes (archive : Archive) :
    archive.bytes.toList =
      archive.flatMap entryBytes ++
        (headersFrom 0 archive ++
          endRecords (List.length archive) (headersFrom 0 archive).length
            (archive.flatMap entryBytes).length) := by
  obtain ⟨entries, directory⟩ := foldl_add_written { entries := #[], directory := #[] } archive
  simp only [List.nil_append] at entries directory
  rw [bytes, Array.toList_appendList, Array.toList_append, ← Array.length_toList,
    ← Array.length_toList, entries, directory, List.append_assoc]
  rfl

theorem size_bytes (archive : Archive) :
    archive.bytes.size =
      (archive.flatMap entryBytes).length + ((headersFrom 0 archive).length +
        (endRecords (List.length archive) (headersFrom 0 archive).length
          (archive.flatMap entryBytes).length).length) := by
  rw [← Array.length_toList, toList_bytes, List.length_append, List.length_append]

theorem entryBytes_length_pos (entry : Entry) : 0 < (entryBytes entry).length := by
  simp [entryBytes, entryHeader]

/-- Every header is no shorter than its fields. -/
theorem length_mul_le_headersFrom (place : Nat) (list : List Entry) :
    list.length * headerSize ≤ (headersFrom place list).length := by
  induction list generalizing place with
  | nil =>
      simp
  | cons entry rest inductionHypothesis =>
      have others := inductionHypothesis (place + (entryBytes entry).length)
      have first := length_directoryHeader entry place
      simp only [headersFrom, List.length_append, List.length_cons, Nat.succ_mul]
      omega

/-- The headers of entries lead to the entries. -/
theorem entries?_of_holds
    {start : Nat}
    (storable : ∀ entry ∈ list, Storable entry)
    (fits : start < capacity 8)
    (before : place + (list.flatMap entryBytes).length ≤ start)
    (held : Holds data place (list.flatMap entryBytes))
    (headers : Holds data offset (headersFrom place list))
    (count : Nat) :
    entries? data { start, count, shift := 0 } list.length offset = some list := by
  induction list generalizing place offset with
  | nil =>
      rfl
  | cons entry rest inductionHypothesis =>
      obtain ⟨isStorable, others⟩ := List.forall_mem_cons.mp storable
      rw [List.flatMap_cons] at held before
      rw [List.length_append] at before
      have positive := entryBytes_length_pos entry
      have storedFits : (storedForm entry).size < capacity 8 := by
        have part : (storedForm entry).size ≤ (entryBytes entry).length := by simp [entryBytes]
        omega
      have first :
          entry? data { start, count, shift := 0 } offset =
            some (entry, offset + (directoryHeader entry place).length) :=
        entry?_of_holds isStorable rfl (show place < start by omega) (by omega) storedFits
          headers.left held.left
      have later := inductionHypothesis others (by omega) held.right headers.right
      rw [List.length_cons, entries?, first]
      dsimp only [Option.bind_eq_bind, Option.bind_some]
      rw [later]
      rfl

/-! ## Records -/

theorem length_endRecord (count size start : Nat) :
    (endRecord count size start).length = endSize := by
  simp [endRecord, endSize]

theorem endSize_le_length_endRecords (count size start : Nat) :
    endSize ≤ (endRecords count size start).length := by
  rw [endRecords, List.length_append, length_endRecord]
  exact Nat.le_add_left ..

theorem length_locator (start : Nat) : (locator start).length = locatorSize := by
  simp [locator, locatorSize]

theorem length_wideRecord (count size start : Nat) :
    (wideRecord count size start).length = wideFrame + wideLeast := by
  simp [wideRecord, wideFrame, wideLeast]

/-- What is read of the record that an archive ends in. -/
def writtenRecord (count start : Nat) : EndRecord :=
  { disk := 0, directoryDisk := 0, countHere := min count largestShort
    count := min count largestShort, offset := min start tooLarge }

theorem isFull_writtenRecord_iff {count start : Nat} :
    (writtenRecord count start).isFull = true ↔ largestShort ≤ count ∨ tooLarge ≤ start := by
  simp only [EndRecord.isFull, writtenRecord, largestShort, tooLarge, Bool.or_eq_true, beq_iff_eq]
  omega

theorem endRecord?_of_holds
    {position count size start : Nat}
    (held : Holds data position (endRecord count size start)) :
    endRecord? data position = some (writtenRecord count start) := by
  have inside := held.le_size
  rw [length_endRecord] at inside
  have fewer : min count largestShort < 65536 := Nat.lt_succ_of_le (Nat.min_le_right ..)
  have nearer : min start tooLarge < 4294967296 := Nat.lt_succ_of_le (Nat.min_le_right ..)
  simp only [endRecord, Holds.append_iff, List.length_append, length_le16, length_le32,
    Nat.reduceAdd] at held
  obtain ⟨⟨⟨⟨⟨⟨⟨signature, disk⟩, directoryDisk⟩, countHere⟩, isCount⟩, -⟩, isOffset⟩, comment⟩ :=
    held
  rw [endRecord?, field?_of_holds_le32 (by decide) signature,
    field?_of_holds_le16 (by decide) disk, field?_of_holds_le16 (by decide) directoryDisk,
    field?_of_holds_le16 fewer countHere, field?_of_holds_le16 fewer isCount,
    field?_of_holds_le32 nearer isOffset, field?_of_holds_le16 (by decide) comment]
  exact if_pos ⟨rfl, inside⟩

theorem locator?_of_holds
    {position start : Nat}
    (fits : start < capacity 8)
    (held : Holds data position (locator start)) :
    locator? data position = some { directoryDisk := 0, offset := start, disks := 1 } := by
  simp only [locator, Holds.append_iff, List.length_append, length_le32, length_littleEndian,
    Nat.reduceAdd] at held
  obtain ⟨⟨⟨signature, directoryDisk⟩, isOffset⟩, disks⟩ := held
  rw [locator?, field?_of_holds_le32 (by decide) signature,
    field?_of_holds_le32 (by decide) directoryDisk, field?_of_holds fits isOffset,
    field?_of_holds_le32 (by decide) disks]
  rfl

theorem wideRecord?_of_holds
    {position count size start : Nat}
    (countFits : count < capacity 8)
    (startFits : start < capacity 8)
    (held : Holds data position (wideRecord count size start)) :
    wideRecord? data position =
      some
        { size := wideLeast, madeBy := wideVersion, needed := wideVersion, disk := 0
          directoryDisk := 0, countHere := count, count, offset := start } := by
  simp only [wideRecord, Holds.append_iff, List.length_append, length_le16, length_le32,
    length_littleEndian, Nat.reduceAdd] at held
  obtain ⟨⟨⟨⟨⟨⟨⟨⟨⟨signature, isSize⟩, madeBy⟩, needed⟩, disk⟩, directoryDisk⟩, countHere⟩, isCount⟩,
    -⟩, isOffset⟩ := held
  rw [wideRecord?, field?_of_holds_le32 (by decide) signature,
    field?_of_holds (by decide) isSize, field?_of_holds_le16 (by decide) madeBy,
    field?_of_holds_le16 (by decide) needed, field?_of_holds_le32 (by decide) disk,
    field?_of_holds_le32 (by decide) directoryDisk, field?_of_holds countFits countHere,
    field?_of_holds countFits isCount, field?_of_holds startFits isOffset]
  rfl

/-! ## The directory -/

/-- A place that fits is the first from it on. -/
theorem firstPlace?_of_fits
    {fits : Nat → Bool}
    {remaining : Nat}
    (isPlace : fits offset = true)
    (left : 0 < remaining) :
    firstPlace? fits remaining offset = some offset := by
  obtain ⟨others, rfl⟩ := Nat.exists_eq_add_one.mpr left
  rw [firstPlace?, if_pos isPlace]

/-- A wide record in front of its locator leads to the directory that it describes. -/
theorem locatorDirectory?_of_holds
    {position count size start : Nat}
    (countFits : count < capacity 8)
    (startFits : start < capacity 8)
    (many : count * headerSize ≤ size)
    (record : Holds data (start + size) (wideRecord count size start))
    (behind : position = start + size + (wideFrame + wideLeast)) :
    ({ directoryDisk := 0, offset := start + size, disks := 1 } : Locator).directory? data
        position =
      some { start, count, shift := 0 } := by
  have isRecord := wideRecord?_of_holds countFits startFits record
  have first :
      firstPlace?
          (fun place => (wideRecord? data place).any
            (·.isLocated { directoryDisk := 0, offset := start + size, disks := 1 } place position))
          (position - 3 - (start + size)) (start + size) =
        some (start + size) := by
    refine firstPlace?_of_fits ?_ (by simp only [wideFrame, wideLeast] at behind; omega)
    rw [isRecord]
    simp [WideRecord.isLocated]
    omega
  rw [Locator.directory?, if_neg (Nat.lt_irrefl 1), first]
  dsimp only [Option.bind_eq_bind, Option.bind_some]
  rw [isRecord]
  dsimp only [Option.bind_some]
  rw [Nat.sub_self]
  exact if_pos ⟨Nat.le_refl _, Nat.le_refl _, rfl⟩

/-- A record whose numbers are not too large leads to the directory that it describes. -/
theorem recordDirectory?_of_holds
    {position count start : Nat}
    (few : count ≤ largestShort)
    (near : start ≤ tooLarge)
    (empty : count = 0 → start = position)
    (header : 0 < count → start + 3 < position ∧ Holds data start (le32 headerSignature)) :
    (writtenRecord count start).directory? data position = some { start, count, shift := 0 } := by
  have same :
      writtenRecord count start =
        { disk := 0, directoryDisk := 0, countHere := count, count, offset := start } := by
    rw [writtenRecord, Nat.min_eq_left few, Nat.min_eq_left near]
  rw [same, EndRecord.directory?]
  by_cases nothing : count = 0
  · rw [if_pos nothing, empty nothing]
    simp
  · obtain ⟨room, signature⟩ := header (Nat.pos_of_ne_zero nothing)
    have first :
        firstPlace? (fun place => field? data place 4 == some headerSignature)
          (position - 3 - start) start = some start := by
      refine firstPlace?_of_fits ?_ (by omega)
      rw [field?_of_holds_le32 (by decide) signature]
      rfl
    rw [if_neg nothing, first]
    simp

section Search

variable {position count size start : Nat}
  (many : count * headerSize ≤ size)
  (empty : count = 0 → start + size = 0)
  (header : 0 < count → Holds data start (le32 headerSignature))

include many header in
/-- Behind a directory there is room to look for its first header. -/
theorem room_of_holds (behind : start + size ≤ position) (occupied : 0 < count) :
    start + 3 < position ∧ Holds data start (le32 headerSignature) := by
  refine ⟨?_, header occupied⟩
  simp only [headerSize] at many
  omega

include many empty header in
/-- A wide record, its locator and the last record lead to a directory. -/
theorem directory?_of_wide
    (fits : start + size < capacity 8)
    (wide : isWide count size start = true)
    (held :
      Holds data (start + size)
        (wideRecord count size start ++ locator (start + size) ++ endRecord count size start))
    (isPosition : position = start + size + (wideFrame + wideLeast + locatorSize)) :
    directory? data position = some { start, count, shift := 0 } := by
  have isRecord : endRecord? data position = some (writtenRecord count start) := by
    refine endRecord?_of_holds (held.right.congr_offset ?_)
    rw [List.length_append, length_wideRecord, length_locator, isPosition]
  have isLocator :
      locatorBefore? data position =
        some { directoryDisk := 0, offset := start + size, disks := 1 } := by
    rw [locatorBefore?, if_neg (by omega)]
    refine locator?_of_holds fits (held.left.right.congr_offset ?_)
    rw [length_wideRecord]
    omega
  rw [directory?, isRecord]
  dsimp only [Option.bind_eq_bind, Option.bind_some]
  by_cases full : (writtenRecord count start).isFull = true
  · have countFits : count < capacity 8 := by
      simp only [headerSize] at many
      omega
    rw [if_pos full, isLocator]
    exact locatorDirectory?_of_holds countFits (by omega) many held.left.left (by omega)
  · rw [if_neg full]
    rw [isFull_writtenRecord_iff] at full
    refine recordDirectory?_of_holds (by omega) (by omega) (fun nothing => ?_)
      (room_of_holds many header (by omega))
    -- Without headers there is nothing that is too large.
    obtain ⟨rfl, rfl⟩ := Nat.add_eq_zero_iff.mp (empty nothing)
    subst nothing
    exact absurd wide (by decide)

include many empty header in
/-- The last record by itself leads to a directory, unless it is mistaken for one that follows a
locator. -/
theorem directory?_of_narrow
    (narrow : isWide count size start = false)
    (held : Holds data (start + size) (endRecord count size start))
    (clear :
      largestShort ≤ count ∨ tooLarge ≤ start → locatorBefore? data (start + size) = none) :
    directory? data (start + size) = some { start, count, shift := 0 } := by
  have isNone :
      (if (writtenRecord count start).isFull then locatorBefore? data (start + size) else none) =
        none := by
    split
    · next full => exact clear (isFull_writtenRecord_iff.mp full)
    · rfl
  simp only [isWide, Bool.or_eq_false_iff, decide_eq_false_iff_not] at narrow
  rw [directory?, endRecord?_of_holds held]
  dsimp only [Option.bind_eq_bind, Option.bind_some]
  rw [isNone]
  refine recordDirectory?_of_holds (by omega) (by omega) (fun nothing => ?_)
    (room_of_holds many header (Nat.le_refl _))
  have ending := empty nothing
  omega

include many empty header in
/-- The records behind a directory lead to it, unless the last of them is mistaken. -/
theorem directory?_of_holds
    (fits : start + size < capacity 8)
    (held : Holds data (start + size) (endRecords count size start))
    (isPosition : position + endSize = start + size + (endRecords count size start).length)
    (clear :
      isWide count size start = false → largestShort ≤ count ∨ tooLarge ≤ start →
        locatorBefore? data position = none) :
    directory? data position = some { start, count, shift := 0 } := by
  cases wide : isWide count size start with
  | true =>
      rw [endRecords, wide, if_pos rfl] at held isPosition
      simp only [List.length_append, length_wideRecord, length_locator, length_endRecord]
        at isPosition
      exact directory?_of_wide many empty header fits wide held (by omega)
  | false =>
      rw [endRecords, wide, if_neg Bool.false_ne_true, List.nil_append] at held isPosition
      rw [length_endRecord] at isPosition
      obtain rfl : position = start + size := Nat.add_right_cancel isPosition
      exact directory?_of_narrow many empty header wide held (clear wide)

end Search

/-! ## Archives -/

/-- The last record of an archive can be mistaken: it is full though there is no wide record, and
what stands in front of it looks like a locator. -/
structure Mistakable (archive : Archive) : Prop where
  narrow :
    isWide (List.length archive) (headersFrom 0 archive).length
        (archive.flatMap entryBytes).length =
      false
  full :
    List.length archive = largestShort ∨ (archive.flatMap entryBytes).length = tooLarge
  located : (locatorBefore? archive.bytes (archive.bytes.size - endSize)).isSome = true

/-- Bytes hold an archive: from some place on they have headers that lead to its entries, and unless
its last record can be mistaken the archive is what is read from them. -/
structure HeldIn (archive : Archive) (content : Bytes) : Prop where
  listed :
    ∃ start,
      entries? content { start, count := List.length archive, shift := 0 } (List.length archive)
          start =
        some archive
  isRead : ¬ archive.Mistakable → read content = .ok archive

/-- Adding entries with names of their own puts them behind the others. -/
theorem foldl_add_of_uniquelyNamed
    (archive : Archive)
    {list : List Entry}
    (unique : UniquelyNamed (archive ++ list)) :
    list.foldl add archive = archive ++ list := by
  induction list generalizing archive with
  | nil =>
      simp
  | cons entry rest inductionHypothesis =>
      have isNew : (List.any archive fun earlier => earlier.name == entry.name) = false := by
        rw [List.any_eq_false]
        intro earlier member same
        exact (List.pairwise_append.mp unique).2.2 earlier member entry List.mem_cons_self
          (eq_of_beq same)
      have added : add archive entry = archive ++ [entry] := by
        rw [add, isNew, if_neg Bool.false_ne_true]
      rw [List.foldl_cons, added, inductionHypothesis _ (by simpa using unique)]
      simp

theorem holds_headerSignature
    {entry : Entry}
    (held : Holds data offset (directoryHeader entry place)) :
    Holds data offset (le32 headerSignature) := by
  simp only [directoryHeader, Holds.append_iff] at held
  exact held.1.1.1.1.1.1.1.1.1

/-- An archive that cannot be mistaken has no locator where it would be looked for. -/
theorem locatorBefore?_of_not_mistakable
    {archive : Archive}
    (clear : ¬ archive.Mistakable)
    (narrow :
      isWide (List.length archive) (headersFrom 0 archive).length
          (archive.flatMap entryBytes).length =
        false)
    (full :
      largestShort ≤ List.length archive ∨ tooLarge ≤ (archive.flatMap entryBytes).length) :
    locatorBefore? archive.bytes (archive.bytes.size - endSize) = none := by
  have bounds := narrow
  simp only [isWide, Bool.or_eq_false_iff, decide_eq_false_iff_not] at bounds
  rw [← Option.not_isSome_iff_eq_none]
  exact fun located => clear ⟨narrow, by omega, located⟩

/-- An archive is held in its bytes. -/
theorem heldIn_bytes
    {archive : Archive}
    (storable : ∀ entry ∈ archive, Storable entry)
    (unique : archive.UniquelyNamed)
    (fits : archive.bytes.size < capacity 8) :
    archive.HeldIn archive.bytes := by
  have whole := Holds.whole archive.bytes
  rw [toList_bytes archive, Holds.append_iff, Holds.append_iff, Nat.zero_add] at whole
  obtain ⟨entries, headers, records⟩ := whole
  have size := size_bytes archive
  have ending :=
    endSize_le_length_endRecords (List.length archive) (headersFrom 0 archive).length
      (archive.flatMap entryBytes).length
  have listed :=
    entries?_of_holds storable (show (archive.flatMap entryBytes).length < capacity 8 by omega)
      (Nat.le_of_eq (Nat.zero_add _)) entries headers (List.length archive)
  refine ⟨⟨_, listed⟩, fun clear => ?_⟩
  have found :
      directory? archive.bytes (archive.bytes.size - endSize) =
        some
          { start := (archive.flatMap entryBytes).length, count := List.length archive
            shift := 0 } := by
    refine directory?_of_holds (length_mul_le_headersFrom 0 archive) (fun nothing => ?_)
      (fun occupied => ?_) (by omega) records (by omega) (locatorBefore?_of_not_mistakable clear)
    · rw [List.eq_nil_of_length_eq_zero nothing]
      rfl
    · obtain ⟨entry, rest, rfl⟩ := List.exists_cons_of_length_pos occupied
      exact holds_headerSignature headers.left
  have here : archiveAt? archive.bytes (archive.bytes.size - endSize) = some archive := by
    rw [archiveAt?, found]
    dsimp only [Option.bind_eq_bind, Option.bind_some]
    rw [listed, Option.bind_some, foldl_add_of_uniquelyNamed [] unique]
    rfl
  have positions : archive.bytes.size + 1 - endSize = archive.bytes.size - endSize + 1 := by
    omega
  unfold read
  rw [positions, archiveBefore?, here]

/-- No entries are in an archive but those that were added. -/
theorem mem_of_mem_foldl_add
    (archive : Archive)
    {list : List Entry}
    {entry : Entry}
    (member : entry ∈ list.foldl add archive) :
    entry ∈ archive ∨ entry ∈ list := by
  induction list generalizing archive with
  | nil =>
      exact .inl member
  | cons first rest inductionHypothesis =>
      rcases inductionHypothesis _ member with earlier | later
      · rw [add] at earlier
        split at earlier
        · obtain ⟨other, isOther, rfl⟩ := List.mem_map.mp earlier
          split
          · exact .inr List.mem_cons_self
          · exact .inl isOther
        · rcases List.mem_append.mp earlier with old | new
          · exact .inl old
          · exact .inr (List.mem_singleton.mp new ▸ List.mem_cons_self)
      · exact .inr (List.mem_cons_of_mem _ later)

/-- The sizes of the entries that are read are numbers of eight bytes. -/
theorem size_lt_of_read
    {data : Bytes}
    {archive : Archive}
    (isRead : read data = .ok archive) :
    ∀ entry ∈ archive, entry.size < capacity 8 := by
  obtain ⟨directory, entries, listed, rfl⟩ := exists_entries_of_read isRead
  intro entry member
  rcases mem_of_mem_foldl_add [] member with nothing | isEntry
  · cases nothing
  · exact size_lt_of_entries? listed entry isEntry

/-- An archive that is written is held in what is written. -/
theorem heldIn_of_write
    {archive : Archive}
    {content : Bytes}
    (opens : ∀ entry ∈ archive, entry.Opens)
    (unique : archive.UniquelyNamed)
    (sized : ∀ entry ∈ archive, entry.size < capacity 8 ∨ entry.size ≤ (storedForm entry).size)
    (written : archive.write = .ok content)
    (fits : content.size < capacity 8) :
    archive.HeldIn content := by
  rw [write] at written
  split at written
  · next named =>
    obtain rfl := Except.ok.inj written
    refine heldIn_bytes (fun entry member => ?_) unique fits
    refine ⟨opens entry member, ?_, ?_⟩
    · simpa using List.all_eq_true.mp named entry member
    · rcases sized entry member with small | stored
      · exact small
      · have part : (storedForm entry).size ≤ (entryBytes entry).length := by simp [entryBytes]
        have within := length_le_of_mem_flatMap entryBytes member
        have size := size_bytes archive
        omega
  · cases written

theorem opens_withContent {entry : Entry} (opens : entry.Opens) (content : Bytes) :
    (entry.withContent content).Opens where
  plain := opens.plain
  there := by
    rw [Entry.withContent]
    dsimp only
    split <;> rfl
  form := opens.form

/-- A new content is no longer than its stored form. -/
theorem size_withContent_le (entry : Entry) (content : Bytes) :
    (entry.withContent content).size ≤ (storedForm (entry.withContent content)).size := by
  rw [storedForm, Entry.withContent]
  dsimp only
  split
  · simpa using length_le_deflate content.toList
  · exact Nat.le_refl _

/-- A patched archive that is written is held in what is written. -/
theorem heldIn_of_patch
    {form : EmptyListForm}
    {requests : List Request}
    {input content : Bytes}
    {archive written : Archive}
    (isRead : read input = .ok archive)
    (patched : (patch form archive requests).output = .ok (some written))
    (isWritten : written.write = .ok content)
    (fits : content.size < capacity 8) :
    written.HeldIn content := by
  obtain ⟨opens, -, -, isReplaced⟩ := patch_eq_ok_iff.mp patched
  rw [replaced] at isReplaced
  split at isReplaced
  · cases isReplaced
  obtain rfl := Option.some.inj isReplaced
  refine heldIn_of_write ?_ ?_ ?_ isWritten fits
  · refine List.forall_mem_map.mpr fun entry member => ?_
    split
    · exact opens_withContent (opens entry member) _
    · exact opens entry member
  · refine (uniquelyNamed_of_read isRead).map fun entry => ?_
    split <;> rfl
  · refine List.forall_mem_map.mpr fun entry member => ?_
    split
    · exact .inr (size_withContent_le entry _)
    · exact .inl (size_lt_of_read isRead entry member)

/-! ## A note beside an image -/

end DexPatch.Archive
