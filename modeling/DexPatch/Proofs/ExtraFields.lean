import DexPatch.Archive.Writer

namespace DexPatch.Archive

/-!
# The fields behind a header

Numbers that are too large for a header are read from the field behind it, in
the place of what stands in the header.  Whatever fields there are, the size
that they leave is a number of eight bytes.
-/

namespace FieldReading

/-! ## Steps -/

variable {α β : Type}

/-- A step that succeeds passes on what it gives, and what is left. -/
theorem run_bind_of_ok
    {first : FieldReading α}
    {next : α → FieldReading β}
    {fields later : Fields}
    {x : α}
    (read : first.run.run fields = (.ok x, later)) :
    (first >>= next).run.run fields = (next x).run.run later := by
  rw [ExceptT.run_bind, StateT.run_bind, read]
  rfl

theorem run_bind_of_error
    {first : FieldReading α}
    {next : α → FieldReading β}
    {fields later : Fields}
    {reason : FieldFault}
    (failed : first.run.run fields = (.error reason, later)) :
    (first >>= next).run.run fields = (.error reason, later) := by
  rw [ExceptT.run_bind, StateT.run_bind, failed]
  rfl

theorem run_get (fields : Fields) :
    (get : FieldReading Fields).run.run fields = (.ok fields, fields) :=
  rfl

theorem run_describe (change : Description → Description) (fields : Fields) :
    (describe change).run.run fields =
      (.ok (), { fields with description := change fields.description }) :=
  rfl

/-- Bytes in front of others are read. -/
theorem run_bytes (description : Description) (piece rest : List UInt8) :
    (bytes piece.length).run.run { description, rest := piece ++ rest } =
      (.ok piece, { description, rest }) := by
  rw [bytes, run_bind_of_ok (run_get _)]
  dsimp only
  rw [if_neg (by simp)]
  change (Except.ok ((piece ++ rest).take piece.length),
    ({ description, rest := (piece ++ rest).drop piece.length } : Fields)) = _
  rw [List.take_left, List.drop_left]

/-- Reading bytes where there are not as many changes nothing. -/
theorem run_bytes_of_lt
    {count : Nat}
    {fields : Fields}
    (few : fields.rest.length < count) :
    (bytes count).run.run fields = (.error .cut, fields) := by
  rw [bytes, run_bind_of_ok (run_get _), if_pos few]
  rfl

theorem run_number
    (width : Nat)
    {n : Nat}
    (fits : n < capacity width)
    (description : Description)
    (rest : List UInt8) :
    (number width).run.run { description, rest := littleEndian width n ++ rest } =
      (.ok n, { description, rest }) := by
  have read := run_bytes description (littleEndian width n) rest
  rw [length_littleEndian] at read
  rw [number, run_bind_of_ok read, ofLittleEndian_littleEndian, Nat.mod_eq_of_lt fits]
  rfl

/-! ## Wide numbers -/

/-- A number has its place: behind a header if it is too large for it, and else in it. -/
def Fits (isWide : Bool) (number : Nat) : Prop :=
  number < if isWide then capacity 8 else tooLarge

theorem length_widened (isWide : Bool) (number : Nat) :
    (widened isWide number).length = if isWide then 8 else 0 := by
  cases isWide with
  | false => rfl
  | true => exact length_littleEndian 8 number

/-- A header tells if a number stands behind it. -/
theorem isThere_narrowed
    {isWide : Bool}
    {number length : Nat}
    (fits : Fits isWide number)
    (few : isWide = false → length < fullLength) :
    (fullLength ≤ length || narrowed isWide number == tooLarge) = isWide := by
  cases isWide with
  | false =>
      have small : number < tooLarge := fits
      simp [narrowed, few, Nat.ne_of_lt small]
  | true =>
      simp [narrowed]

/-- A number is read from behind a header if it stands there, and has been read from the header if
it does not. -/
theorem run_wideNumber
    {isWide : Bool}
    {number : Nat}
    (fits : Fits isWide number)
    (change : Nat → Description → Description)
    (description : Description)
    (unchanged : isWide = false → change number description = description)
    (rest : List UInt8) :
    (wideNumber isWide change).run.run
        { description, rest := widened isWide number ++ rest } =
      (.ok (widened isWide number).length, { description := change number description, rest }) := by
  cases isWide with
  | false =>
      rw [unchanged rfl]
      rfl
  | true =>
      have isRead := run_number 8 fits description rest
      rw [wideNumber, if_pos rfl, show widened true number = littleEndian 8 number from rfl,
        run_bind_of_ok isRead, run_bind_of_ok (run_describe _ _), length_littleEndian]
      rfl

/-- The numbers behind a header are read in the place of what stands in it. -/
theorem run_numbers
    {description : Description}
    {sizeWide storedWide isFar : Bool}
    {size storedSize offset : Nat}
    (sizeFits : Fits sizeWide size)
    (storedFits : Fits storedWide storedSize)
    (offsetFits : Fits isFar offset)
    (sizeField : description.size = narrowed sizeWide size)
    (storedField : description.storedSize = narrowed storedWide storedSize)
    (offsetField : description.offset = narrowed isFar offset)
    (rest : List UInt8) :
    let content :=
      widened sizeWide size ++ widened storedWide storedSize ++ widened isFar offset
    (numbers content.length).run.run { description, rest := content ++ rest } =
      (.ok (), { description := { description with size, storedSize, offset }, rest }) := by
  intro content
  have length :
      content.length =
        (widened sizeWide size).length + (widened storedWide storedSize).length +
          (widened isFar offset).length := by
    rw [List.length_append, List.length_append]
  have few (isWide : Bool) (isOne : isWide = sizeWide ∨ isWide = storedWide ∨ isWide = isFar)
      (notThere : isWide = false) : content.length < fullLength := by
    subst notThere
    simp only [length, length_widened, fullLength]
    grind
  have readSize :=
    run_wideNumber sizeFits (fun size description => { description with size }) description
      (fun plain => by
        rw [plain] at sizeField
        rw [← show description.size = size from sizeField])
      (widened storedWide storedSize ++ (widened isFar offset ++ rest))
  have readStored :=
    run_wideNumber storedFits (fun storedSize description => { description with storedSize })
      { description with size }
      (fun plain => by
        rw [plain] at storedField
        rw [← show description.storedSize = storedSize from storedField])
      (widened isFar offset ++ rest)
  have readOffset :=
    run_wideNumber offsetFits (fun offset description => { description with offset })
      { description with size, storedSize }
      (fun plain => by
        rw [plain] at offsetField
        rw [← show description.offset = offset from offsetField])
      rest
  have require_self (fields : Fields) :
      (require (content.length ≤ content.length)).run.run fields = (.ok (), fields) := by
    rw [require, if_pos (by simp)]
    rfl
  have skip_zero (fields : Fields) : (skip 0).run.run fields = (.ok (), fields) := rfl
  rw [numbers, run_bind_of_ok (run_get _)]
  dsimp only
  rw [sizeField, storedField, offsetField, isThere_narrowed sizeFits (few _ (.inl rfl)),
    isThere_narrowed storedFits (few _ (.inr (.inl rfl))),
    isThere_narrowed offsetFits (few _ (.inr (.inr rfl))), List.append_assoc, List.append_assoc,
    run_bind_of_ok readSize, run_bind_of_ok readStored, run_bind_of_ok readOffset, ← length,
    Nat.sub_self, run_bind_of_ok (require_self _), skip_zero]

/-! ## Fields -/

/-- A field of numbers is read. -/
theorem run_field
    {description described : Description}
    {content rest : List UInt8}
    (short : content.length < 65536)
    (isRead :
      (numbers content.length).run.run { description, rest := content ++ rest } =
        (.ok (), { description := described, rest })) :
    field.run.run
        { description, rest := le16 0x0001 ++ le16 content.length ++ content ++ rest } =
      (.ok (), { description := described, rest }) := by
  have kind :=
    run_number 2 (show 0x0001 < capacity 2 by decide) description
      (le16 content.length ++ (content ++ rest))
  have length := run_number 2 short description (content ++ rest)
  rw [List.append_assoc, List.append_assoc, field, le16, run_bind_of_ok kind, le16,
    run_bind_of_ok length]
  exact isRead

end FieldReading

open FieldReading

/-- What is described when there are no fields. -/
theorem described?_nil (bound : Nat) (description : Description) :
    Fields.described? bound { description, rest := [] } = some description := by
  cases bound <;> rfl

/-- One field is read, and nothing is left. -/
theorem described?_wideField
    {description described : Description}
    {content : List UInt8}
    (present : content ≠ [])
    (short : content.length < 65536)
    (isRead :
      (numbers content.length).run.run { description, rest := content ++ [] } =
        (.ok (), { description := described, rest := [] })) :
    Fields.described? (wideField content).length { description, rest := wideField content } =
      some described := by
  have isField : wideField content = le16 0x0001 ++ le16 content.length ++ content ++ [] := by
    rw [wideField, if_neg (by simpa using present), List.append_nil]
  have front : (wideField content).isEmpty = false := by
    rw [isField]
    rfl
  obtain ⟨bound, isBound⟩ : ∃ bound, (wideField content).length = bound + 1 :=
    Nat.exists_eq_add_one.mpr (List.length_pos_iff.mpr (List.isEmpty_eq_false_iff.mp front))
  rw [isBound, Fields.described?, if_neg (by simp [front]), isField, run_field short isRead]
  exact described?_nil bound described

/-- The numbers behind a header stand in the place of what stands in it. -/
theorem withFields?_wideField
    {description : Description}
    {sizeWide storedWide isFar : Bool}
    {size storedSize offset : Nat}
    (named : description.compression ≠ namedByField)
    (sizeFits : Fits sizeWide size)
    (storedFits : Fits storedWide storedSize)
    (offsetFits : Fits isFar offset)
    (sizeField : description.size = narrowed sizeWide size)
    (storedField : description.storedSize = narrowed storedWide storedSize)
    (offsetField : description.offset = narrowed isFar offset) :
    description.withFields?
        (wideField (widened sizeWide size ++ widened storedWide storedSize ++
          widened isFar offset)) =
      some { description with size, storedSize, offset } := by
  let content := widened sizeWide size ++ widened storedWide storedSize ++ widened isFar offset
  have short : content.length < 65536 := by
    simp only [content, List.length_append, length_widened]
    grind
  have described :
      Fields.described? (wideField content).length { description, rest := wideField content } =
        some { description with size, storedSize, offset } := by
    by_cases present : content = []
    · have plain (isWide : Bool) (number : Nat) (nothing : widened isWide number = []) :
          isWide = false := by
        have length := length_widened isWide number
        rw [nothing] at length
        simpa using length
      simp only [content, List.append_eq_nil_iff] at present
      obtain ⟨⟨noSize, noStored⟩, noOffset⟩ := present
      obtain rfl := plain _ _ noSize
      obtain rfl := plain _ _ noStored
      obtain rfl := plain _ _ noOffset
      obtain ⟨_, _, _, _, _, _, _, _⟩ := description
      obtain rfl : _ = size := sizeField
      obtain rfl : _ = storedSize := storedField
      obtain rfl : _ = offset := offsetField
      exact described?_nil ..
    · exact described?_wideField present short
        (run_numbers sizeFits storedFits offsetFits sizeField storedField offsetField [])
  rw [Description.withFields?, described]
  exact if_neg (by simp [named])

/-! ## Sizes -/

namespace FieldReading

variable {α β : Type}

/-- Whatever bytes follow, a step leaves a size of at most eight bytes, and what it gives has some
property. -/
def Sized (gives : α → Prop) (step : FieldReading α) : Prop :=
  ∀ fields : Fields,
    fields.description.size < capacity 8 →
      (step.run.run fields).2.description.size < capacity 8 ∧
        ∀ x, (step.run.run fields).1 = .ok x → gives x

namespace Sized

variable {gives : α → Prop} {step : FieldReading α}

theorem pure {x : α} (given : gives x) : Sized gives (Pure.pure x) := by
  intro fields small
  refine ⟨small, ?_⟩
  rintro _ ⟨⟩
  exact given

theorem throw (reason : FieldFault) : Sized gives (MonadExcept.throw reason) := by
  intro fields small
  exact ⟨small, nofun⟩

theorem get : Sized (fun fields => fields.description.size < capacity 8) MonadState.get := by
  intro fields small
  refine ⟨small, ?_⟩
  rintro _ ⟨⟩
  exact small

theorem bind
    {next : α → FieldReading β}
    {result : β → Prop}
    (first : Sized gives step)
    (rest : ∀ x, gives x → Sized result (next x)) :
    Sized result (step >>= next) := by
  intro fields small
  obtain ⟨stillSmall, given⟩ := first fields small
  cases run : step.run.run fields with
  | mk outcome later =>
      rw [run] at stillSmall given
      cases outcome with
      | error reason =>
          rw [run_bind_of_error run]
          exact ⟨stillSmall, nofun⟩
      | ok x =>
          rw [run_bind_of_ok run]
          exact rest x (given x rfl) later stillSmall

end Sized

/-- Whatever bytes follow, a step leaves a size of at most eight bytes. -/
abbrev KeepsSize (step : FieldReading α) : Prop := Sized (fun _ => True) step

theorem sized_bytes (count : Nat) : Sized (fun list => list.length = count) (bytes count) := by
  intro fields small
  by_cases few : fields.rest.length < count
  · rw [run_bytes_of_lt few]
    exact ⟨small, nofun⟩
  · have length : (fields.rest.take count).length = count :=
      List.length_take_of_le (Nat.le_of_not_lt few)
    have isRead := run_bytes fields.description (fields.rest.take count) (fields.rest.drop count)
    rw [length, List.take_append_drop] at isRead
    rw [isRead]
    refine ⟨small, ?_⟩
    rintro _ ⟨⟩
    exact length

theorem sized_number (width : Nat) : Sized (· < capacity width) (number width) :=
  (sized_bytes width).bind fun list length => .pure (length ▸ ofLittleEndian_lt list)

theorem sized_skip (count : Nat) : KeepsSize (skip count) :=
  (sized_bytes count).bind fun _ _ => .pure trivial

theorem sized_require (holds : Bool) : KeepsSize (require holds) := by
  rw [require]
  split
  · exact .pure trivial
  · exact .throw _

theorem sized_describe
    {change : Description → Description}
    (keeps :
      ∀ description, description.size < capacity 8 → (change description).size < capacity 8) :
    KeepsSize (describe change) := by
  intro fields small
  exact ⟨keeps _ small, fun _ _ => trivial⟩

theorem sized_text (list : List UInt8) : KeepsSize (text list) := by
  rw [text]
  split
  · exact .pure trivial
  · exact .throw _

theorem sized_wideNumber
    (isThere : Bool)
    {change : Nat → Description → Description}
    (keeps :
      ∀ number description,
        number < capacity 8 → description.size < capacity 8 →
          (change number description).size < capacity 8) :
    KeepsSize (wideNumber isThere change) := by
  rw [wideNumber]
  split
  · refine (sized_number 8).bind fun number small => ?_
    exact (sized_describe fun description => keeps number description small).bind
      fun _ _ => .pure trivial
  · exact .pure trivial

theorem sized_numbers (length : Nat) : KeepsSize (numbers length) := by
  unfold numbers
  refine Sized.get.bind fun fields _ => ?_
  refine Sized.bind (sized_wideNumber _ ?_) fun _ _ => ?_
  · exact fun _ _ small _ => small
  refine Sized.bind (sized_wideNumber _ ?_) fun _ _ => ?_
  · exact fun _ _ _ small => small
  refine Sized.bind (sized_wideNumber _ ?_) fun _ _ => ?_
  · exact fun _ _ _ small => small
  exact (sized_require _).bind fun _ _ => sized_skip _

theorem sized_tickTimes (length : Nat) : KeepsSize (tickTimes length) := by
  refine (sized_require _).bind fun _ _ => (sized_skip _).bind fun _ _ => ?_
  refine (sized_number 2).bind fun _ _ => (sized_require _).bind fun _ _ => ?_
  refine (sized_number 2).bind fun _ _ => (sized_require _).bind fun _ _ => ?_
  exact sized_skip _

theorem sized_secondTimes (length : Nat) : KeepsSize (secondTimes length) := by
  refine (sized_number 1).bind fun _ _ => (sized_require _).bind fun _ _ => ?_
  exact sized_skip _

theorem sized_replacement (length : Nat) (replaced : List UInt8) :
    KeepsSize (replacement length replaced) := by
  refine (sized_skip _).bind fun _ _ => (sized_number 4).bind fun _ _ => ?_
  refine (sized_require _).bind fun _ _ => (sized_bytes _).bind fun _ _ => ?_
  exact (sized_require _).bind fun _ _ => .pure trivial

theorem sized_name (length : Nat) : KeepsSize (name length) := by
  refine Sized.get.bind fun _ _ => (sized_replacement _ _).bind fun _ _ => ?_
  refine (sized_text _).bind fun _ _ => ?_
  exact sized_describe fun _ small => small

theorem sized_comment (length : Nat) : KeepsSize (comment length) := by
  refine Sized.get.bind fun _ _ => (sized_replacement _ _).bind fun _ _ => ?_
  refine (sized_text _).bind fun _ _ => ?_
  exact sized_describe fun _ small => small

theorem sized_cipher (length : Nat) : KeepsSize (cipher length) := by
  refine (sized_require _).bind fun _ _ => (sized_number 2).bind fun _ _ => ?_
  refine (sized_number 2).bind fun _ _ => (sized_number 1).bind fun _ _ => ?_
  refine (sized_number 2).bind fun _ _ => (sized_require _).bind fun _ _ => ?_
  exact sized_describe fun _ small => small

/-- A field leaves a size of at most eight bytes, whatever its kind. -/
theorem sized_field : KeepsSize field := by
  refine (sized_number 2).bind fun kind _ => (sized_number 2).bind fun length _ => ?_
  split
  · exact sized_numbers length
  · exact sized_tickTimes length
  · exact sized_secondTimes length
  · exact sized_comment length
  · exact sized_name length
  · exact sized_cipher length
  · exact sized_skip length

end FieldReading

/-- So do all fields, one after the other. -/
theorem size_lt_of_described?
    {bound : Nat}
    {fields : Fields}
    {described : Description}
    (small : fields.description.size < capacity 8)
    (isRead : fields.described? bound = some described) :
    described.size < capacity 8 := by
  induction bound generalizing fields with
  | zero =>
      exact Option.some.inj isRead ▸ small
  | succ bound inductionHypothesis =>
      rw [Fields.described?] at isRead
      split at isRead
      · exact Option.some.inj isRead ▸ small
      · have later := (sized_field fields small).1
        split at isRead
        · next run =>
          rw [run] at later
          exact inductionHypothesis later isRead
        · next run =>
          rw [run] at later
          exact Option.some.inj isRead ▸ later
        · cases isRead

theorem size_lt_of_withFields?
    {description described : Description}
    {extra : List UInt8}
    (small : description.size < capacity 8)
    (isRead : description.withFields? extra = some described) :
    described.size < capacity 8 := by
  obtain ⟨read, isDescribed, isRead⟩ := Option.bind_eq_some_iff.mp isRead
  have sized := size_lt_of_described? small isDescribed
  split at isRead
  · cases isRead
  · exact Option.some.inj isRead ▸ sized

/-! ## Entries -/

theorem field?_lt
    {data : Bytes}
    {offset width n : Nat}
    (isField : field? data offset width = some n) :
    n < capacity width := by
  obtain ⟨piece, taken, rfl⟩ := Option.map_eq_some_iff.mp isField
  rw [slice?] at taken
  split at taken
  · obtain rfl := Option.some.inj taken
    have bound := ofLittleEndian_lt (data.extract offset (offset + width)).toList
    rwa [Array.length_toList, Array.size_extract_of_le ‹_›, Nat.add_sub_cancel_left] at bound
  · cases taken

/-- The size of an entry that is read is a number of eight bytes. -/
theorem size_lt_of_header
    {data : Bytes}
    {directory : Directory}
    {offset next : Nat}
    {entry : Entry}
    (found : entry? data directory offset = some (entry, next)) :
    entry.size < capacity 8 := by
  unfold entry? at found
  iterate 6 obtain ⟨_, -, found⟩ := Option.bind_eq_some_iff.mp found
  obtain ⟨size, isSize, found⟩ := Option.bind_eq_some_iff.mp found
  iterate 8 obtain ⟨_, -, found⟩ := Option.bind_eq_some_iff.mp found
  obtain ⟨description, isDescribed, found⟩ := Option.bind_eq_some_iff.mp found
  have small : size < capacity 8 := Nat.lt_trans (field?_lt isSize) (by decide)
  have described := size_lt_of_withFields? small isDescribed
  dsimp only at found
  split at found
  · cases found
  · obtain rfl := (Prod.mk.inj (Option.some.inj found)).1
    exact described

theorem size_lt_of_entries?
    {data : Bytes}
    {directory : Directory}
    {count offset : Nat}
    {entries : List Entry}
    (found : entries? data directory count offset = some entries) :
    ∀ entry ∈ entries, entry.size < capacity 8 := by
  induction count generalizing offset entries with
  | zero =>
      obtain rfl := Option.some.inj found
      exact fun _ member => absurd member List.not_mem_nil
  | succ count inductionHypothesis =>
      obtain ⟨⟨entry, next⟩, first, found⟩ := Option.bind_eq_some_iff.mp found
      obtain ⟨rest, others, isList⟩ := Option.bind_eq_some_iff.mp found
      obtain rfl := Option.some.inj isList
      exact List.forall_mem_cons.mpr ⟨size_lt_of_header first, inductionHypothesis others⟩

end DexPatch.Archive
