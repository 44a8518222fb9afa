import DexPatch.Proofs.EntryContents
import DexPatch.Proofs.EntryNames
import DexPatch.Proofs.ExtraFields

namespace DexPatch.Archive

/-!
# Entries that are written are read back

The header of an entry in the directory says everything about the entry, and
leads to the data behind the entry's own header.  So an entry is read from the
two headers as it was, whatever stands around them.
-/

variable {data : Bytes} {offset : Nat}

/-! ## Fields of known width -/

theorem slice?_of_holds
    {piece : List UInt8}
    {length : Nat}
    (held : Holds data offset piece)
    (isLength : piece.length = length) :
    slice? data offset length = some piece :=
  isLength ▸ held

theorem field?_of_holds
    {width n : Nat}
    (fits : n < capacity width)
    (held : Holds data offset (littleEndian width n)) :
    field? data offset width = some n := by
  rw [field?, slice?_of_holds held (length_littleEndian width n), Option.map_some,
    ofLittleEndian_littleEndian, Nat.mod_eq_of_lt fits]

theorem field?_of_holds_le16
    {n : Nat}
    (fits : n < 65536)
    (held : Holds data offset (le16 n)) :
    field? data offset 2 = some n :=
  field?_of_holds fits held

theorem field?_of_holds_le32
    {n : Nat}
    (fits : n < 4294967296)
    (held : Holds data offset (le32 n)) :
    field? data offset 4 = some n :=
  field?_of_holds fits held

/-! ## Entries -/

open FieldReading (tooLarge Fits length_widened)

/-- An entry that can be opened, and that its headers can describe. -/
structure Storable (entry : Entry) : Prop where
  opens : entry.Opens
  name : (textBytes entry.name).length ≤ largestShort
  size : entry.size < capacity 8

variable {entry : Entry} {extra : List UInt8}

theorem narrowed_lt {isWide : Bool} {number : Nat} (fits : Fits isWide number) :
    narrowed isWide number < 4294967296 := by
  cases isWide with
  | false => exact Nat.lt_trans (show number < tooLarge from fits) (by decide)
  | true => exact show tooLarge < 4294967296 by decide

theorem fits_decide {number : Nat} (fits : number < capacity 8) :
    Fits (tooLarge ≤ number) number := by
  rw [Fits]
  split
  · exact fits
  · next small => simpa using small

theorem fits_isLarge
    {number : Nat}
    (fits : number < capacity 8)
    (isSize : number ≤ max entry.size (storedForm entry).size) :
    Fits (isLarge entry) number := by
  rw [Fits]
  split
  · exact fits
  · next small =>
    simp only [isLarge, decide_eq_true_eq] at small
    omega

theorem length_widened_le (isWide : Bool) (number : Nat) : (widened isWide number).length ≤ 8 := by
  rw [length_widened]
  split <;> omega

theorem length_wideSizes_le (entry : Entry) : (wideSizes entry).length ≤ 16 := by
  have first := length_widened_le (isLarge entry) entry.size
  have second := length_widened_le (isLarge entry) (storedForm entry).size
  rw [wideSizes, List.length_append]
  omega

theorem length_wideField_le (content : List UInt8) :
    (wideField content).length ≤ content.length + 4 := by
  rw [wideField]
  split
  · exact Nat.zero_le _
  · simp
    omega

theorem length_entryExtra_lt (entry : Entry) : (entryExtra entry).length < 65536 := by
  have field := length_wideField_le (wideSizes entry)
  have sizes := length_wideSizes_le entry
  rw [entryExtra]
  omega

theorem length_directoryExtra_lt (entry : Entry) (offset : Nat) :
    (directoryExtra entry offset).length < 65536 := by
  have field := length_wideField_le (wideSizes entry ++ widened (tooLarge ≤ offset) offset)
  have sizes := length_wideSizes_le entry
  have place := length_widened_le (tooLarge ≤ offset) offset
  rw [List.length_append] at field
  rw [directoryExtra]
  omega

/-- What is read of the fields that both headers have. -/
structure SharedAt (data : Bytes) (offset : Nat) (entry : Entry) (extra : List UInt8) : Prop where
  flags : field? data (offset + 2) 2 = some (flagsOf entry)
  compression : field? data (offset + 4) 2 = some entry.compression.code
  modified : field? data (offset + 6) 4 = some entry.modified.toNat
  checksum : field? data (offset + 10) 4 = some entry.checksum.toNat
  storedSize :
    field? data (offset + 14) 4 = some (narrowed (isLarge entry) (storedForm entry).size)
  size : field? data (offset + 18) 4 = some (narrowed (isLarge entry) entry.size)
  nameLength : field? data (offset + 22) 2 = some (textBytes entry.name).length
  extraLength : field? data (offset + 24) 2 = some extra.length

theorem sharedAt_of_holds
    (storable : Storable entry)
    (storedFits : (storedForm entry).size < capacity 8)
    (short : extra.length < 65536)
    (held : Holds data offset (sharedFields entry extra)) :
    SharedAt data offset entry extra := by
  have flags : flagsOf entry < 65536 := by
    rw [flagsOf]
    split <;> split <;> decide
  have code : entry.compression.code < 65536 := by
    rcases storable.opens.form with form | form <;> rw [form] <;> decide
  have name : (textBytes entry.name).length < 65536 := Nat.lt_succ_of_le storable.name
  have stored := narrowed_lt (fits_isLarge storedFits (Nat.le_max_right ..))
  have size := narrowed_lt (fits_isLarge storable.size (Nat.le_max_left ..))
  simp only [sharedFields, Holds.append_iff, List.length_append, length_le16, length_le32,
    Nat.reduceAdd] at held
  obtain ⟨⟨⟨⟨⟨⟨⟨⟨-, isFlags⟩, isCode⟩, isModified⟩, isChecksum⟩, isStored⟩, isSize⟩, isName⟩,
    isExtra⟩ := held
  exact
    { flags := field?_of_holds_le16 flags isFlags
      compression := field?_of_holds_le16 code isCode
      modified := field?_of_holds_le32 entry.modified.toNat_lt isModified
      checksum := field?_of_holds_le32 entry.checksum.toNat_lt isChecksum
      storedSize := field?_of_holds_le32 stored isStored
      size := field?_of_holds_le32 size isSize
      nameLength := field?_of_holds_le16 name isName
      extraLength := field?_of_holds_le16 short isExtra }

theorem length_sharedFields : (sharedFields entry extra).length = 26 := by
  simp [sharedFields]

/-- The data of an entry is found behind its header. -/
theorem entryData?_of_holds
    (storable : Storable entry)
    (storedFits : (storedForm entry).size < capacity 8)
    (held : Holds data offset (entryHeader entry ++ (storedForm entry).toList)) :
    entryData? data offset (storedForm entry).size = some (storedForm entry) := by
  simp only [entryHeader, Holds.append_iff, List.length_append, length_le32,
    length_sharedFields, Nat.reduceAdd] at held
  obtain ⟨⟨⟨⟨signature, shared⟩, -⟩, -⟩, form⟩ := held
  have isShared := sharedAt_of_holds storable storedFits (length_entryExtra_lt entry) shared
  have isName : field? data (offset + 26) 2 = some (textBytes entry.name).length :=
    isShared.nameLength
  have isExtra : field? data (offset + 28) 2 = some (entryExtra entry).length :=
    isShared.extraLength
  have start :
      offset + entryHeaderSize + (textBytes entry.name).length + (entryExtra entry).length =
        offset + (30 + (textBytes entry.name).length + (entryExtra entry).length) := by
    rw [entryHeaderSize]
    omega
  rw [entryData?, field?_of_holds_le32 (by decide) signature, isName, isExtra]
  dsimp only [Option.bind_eq_bind, Option.bind_some]
  rw [if_pos rfl, start]
  exact congrArg some (Array.toList_inj.mp form.extract)

/-- The name of an entry is marked as what it is. -/
theorem decoded_name (plain : entry.encrypted = false) :
    decoded (flagsOf entry &&& utf8Flag ≠ 0) (textBytes entry.name) = entry.name := by
  refine decoded_textBytes ?_
  rw [flagsOf, plain]
  by_cases ascii : entry.name.toList.all (·.toNat < 0x80) = true
  · exact .inr (List.all_iff_forall_prop.mp ascii)
  · rw [if_neg ascii]
    exact .inl (by decide)

theorem flagsOf_and_encryptedFlag (plain : entry.encrypted = false) :
    flagsOf entry &&& encryptedFlag = 0 := by
  rw [flagsOf, plain]
  split <;> rfl

theorem ofCode_code (opens : entry.Opens) : .ofCode entry.compression.code = entry.compression := by
  rcases opens.form with form | form <;> rw [form] <;> rfl

/-- What is read of the header of an entry in the directory. -/
structure HeaderAt (data : Bytes) (offset : Nat) (entry : Entry) (place : Nat) : Prop where
  signature : field? data offset 4 = some headerSignature
  flags : field? data (offset + 8) 2 = some (flagsOf entry)
  compression : field? data (offset + 10) 2 = some entry.compression.code
  modified : field? data (offset + 12) 4 = some entry.modified.toNat
  checksum : field? data (offset + 16) 4 = some entry.checksum.toNat
  storedSize :
    field? data (offset + 20) 4 = some (narrowed (isLarge entry) (storedForm entry).size)
  size : field? data (offset + 24) 4 = some (narrowed (isLarge entry) entry.size)
  nameLength : field? data (offset + 28) 2 = some (textBytes entry.name).length
  extraLength : field? data (offset + 30) 2 = some (directoryExtra entry place).length
  commentLength : field? data (offset + 32) 2 = some 0
  attributes : field? data (offset + 38) 4 = some entry.attributes.toNat
  placeField : field? data (offset + 42) 4 = some (narrowed (tooLarge ≤ place) place)
  name :
    slice? data (offset + headerSize) (textBytes entry.name).length = some (textBytes entry.name)
  extra :
    slice? data (offset + headerSize + (textBytes entry.name).length)
        (directoryExtra entry place).length =
      some (directoryExtra entry place)
  comment :
    slice? data
        (offset + headerSize + (textBytes entry.name).length + (directoryExtra entry place).length)
        0 =
      some []

theorem headerAt_of_holds
    {place : Nat}
    (storable : Storable entry)
    (placeFits : place < capacity 8)
    (storedFits : (storedForm entry).size < capacity 8)
    (held : Holds data offset (directoryHeader entry place)) :
    HeaderAt data offset entry place := by
  simp only [directoryHeader, Holds.append_iff, List.length_append, length_le16, length_le32,
    length_sharedFields, Nat.reduceAdd] at held
  obtain ⟨⟨⟨⟨⟨⟨⟨⟨⟨signature, -⟩, shared⟩, comment⟩, -⟩, -⟩, attributes⟩, isPlace⟩, name⟩, extra⟩ :=
    held
  have isShared :=
    sharedAt_of_holds storable storedFits (length_directoryExtra_lt entry place) shared
  have behind := extra.congr_offset (Nat.add_assoc ..).symm
  exact
    { signature := field?_of_holds_le32 (by decide) signature
      flags := isShared.flags
      compression := isShared.compression
      modified := isShared.modified
      checksum := isShared.checksum
      storedSize := isShared.storedSize
      size := isShared.size
      nameLength := isShared.nameLength
      extraLength := isShared.extraLength
      commentLength := field?_of_holds_le16 (by decide) comment
      attributes := field?_of_holds_le32 entry.attributes.toNat_lt attributes
      placeField := field?_of_holds_le32 (narrowed_lt (fits_decide placeFits)) isPlace
      name := name
      extra := behind
      comment := Holds.nil behind.le_size }

theorem length_directoryHeader (entry : Entry) (place : Nat) :
    (directoryHeader entry place).length =
      headerSize + (textBytes entry.name).length + (directoryExtra entry place).length := by
  simp only [directoryHeader, List.length_append, length_le16, length_le32, length_sharedFields,
    headerSize]

/-- The header of an entry in the directory leads to the entry, and ends where the next starts. -/
theorem entry?_of_holds
    {directory : Directory}
    {place : Nat}
    (storable : Storable entry)
    (unshifted : directory.shift = 0)
    (inside : place < directory.start)
    (placeFits : place < capacity 8)
    (storedFits : (storedForm entry).size < capacity 8)
    (header : Holds data offset (directoryHeader entry place))
    (held : Holds data place (entryHeader entry ++ (storedForm entry).toList)) :
    entry? data directory offset =
      some (entry, offset + (directoryHeader entry place).length) := by
  obtain ⟨plain, there, -⟩ := storable.opens
  have read := headerAt_of_holds storable placeFits storedFits header
  have isData := entryData?_of_holds storable storedFits held
  have isForm : some (storedForm entry) = entry.data := by
    obtain ⟨stored, isStored⟩ := Option.isSome_iff_exists.mp there
    rw [storedForm, isStored]
    rfl
  have named : entry.compression ≠ namedByField := by
    rcases storable.opens.form with form | form <;> rw [form] <;> nofun
  have behind :
      offset + headerSize + (textBytes entry.name).length + (directoryExtra entry place).length +
          0 =
        offset + (directoryHeader entry place).length := by
    rw [length_directoryHeader]
    omega
  unfold entry?
  rw [read.signature, read.flags, read.compression, read.modified, read.checksum, read.storedSize,
    read.size, read.nameLength, read.extraLength, read.commentLength, read.attributes,
    read.placeField]
  dsimp only [Option.bind_eq_bind, Option.bind_some]
  rw [read.name, read.extra, read.comment, behind]
  dsimp only [Option.bind_some]
  rw [ofCode_code storable.opens, decoded_name plain, directoryExtra, wideSizes,
    withFields?_wideField named (fits_isLarge storable.size (Nat.le_max_left ..))
      (fits_isLarge storedFits (Nat.le_max_right ..)) (fits_decide placeFits) rfl rfl rfl]
  dsimp only [Option.bind_some]
  have outside :
      ¬ (headerSignature ≠ headerSignature ∨ directory.start ≤ place + directory.shift) := by
    rw [unshifted]
    simpa using inside
  rw [if_neg outside, unshifted, Nat.add_zero, isData, isForm, flagsOf_and_encryptedFlag plain]
  refine congrArg (fun read => some (read, _)) ?_
  simp [← plain]

end DexPatch.Archive
