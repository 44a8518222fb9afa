import Mathlib.Data.List.Basic
import DexPatch.Json.Reader
import DexPatch.Json.Writer
import DexPatch.Proofs.Texts

namespace DexPatch.Json

open Text (charUnits units hexDigits hexPadded)

/-!
# JSON values read back

A written text ends at its closing quote: every quote in it is escaped, and an
escape is read as the character that it stands for.  Parts of a value are
written with commas between them, and none starts like the end of the value
that holds it.  So a value made of texts, arrays and records is read back from
what is written for it, and the size of what is written is bound enough.
-/

/-! ## Texts -/

/-- The four digits of a control are read as its number. -/
theorem unitOfHex?_control :
    ∀ n < 0x20,
      List.replicate (4 - (hexDigits n).length) '0' ++ hexDigits n =
          ['0', '0', Nat.digitChar (n / 16), Nat.digitChar (n % 16)] ∧
        unitOfHex? '0' '0' (Nat.digitChar (n / 16)) (Nat.digitChar (n % 16)) =
          some (UInt16.ofNat n) := by
  decide

/-- A control that is escaped by its number is read as that control. -/
theorem stringBody_control_append
    {c : Char}
    (control : c.toNat < 0x20)
    (rest : List Char) :
    stringBody (['\\', 'u'] ++ (hexPadded 4 c.toNat).toList ++ rest) =
      (stringBody rest).map fun (units, rest) => (charUnits c ++ units, rest) := by
  obtain ⟨digits, value⟩ := unitOfHex?_control c.toNat control
  rw [hexPadded, String.toList_ofList, digits, charUnits, if_pos (by omega)]
  simp only [List.cons_append, List.nil_append, stringBody, value]
  cases stringBody rest <;> rfl

/-- An escape of one letter is read as the character that it stands for. -/
theorem stringBody_escape
    {letter c : Char}
    (notHex : letter ≠ 'u')
    (value : (escapeUnit? letter).map ([·]) = some (charUnits c))
    (rest : List Char) :
    stringBody ('\\' :: letter :: rest) =
      (stringBody rest).map fun (units, rest) => (charUnits c ++ units, rest) := by
  obtain ⟨unit, isUnit, same⟩ := Option.map_eq_some_iff.mp value
  rw [stringBody, isUnit, ← same]
  · cases stringBody rest <;> rfl
  · simp [notHex]

/-- A character that needs no escape is read as it stands. -/
theorem stringBody_cons
    {c : Char}
    (notQuote : c ≠ '"')
    (notBackslash : c ≠ '\\')
    (notControl : ¬ c.toNat < 0x20)
    (rest : List Char) :
    stringBody (c :: rest) =
      (stringBody rest).map fun (units, rest) => (charUnits c ++ units, rest) := by
  rw [stringBody]
  · rw [if_neg notControl]
    cases stringBody rest <;> rfl
  all_goals simp_all

/-- A written character is read as its units, whatever follows it. -/
theorem stringBody_escapedChar_append (c : Char) (rest : List Char) :
    stringBody (escapedChar c ++ rest) =
      (stringBody rest).map fun (units, rest) => (charUnits c ++ units, rest) := by
  unfold escapedChar
  split
  case h_8 notQuote notBackslash _ _ _ _ _ =>
    split
    · next control => exact stringBody_control_append control rest
    · next notControl => exact stringBody_cons notQuote notBackslash notControl rest
  all_goals exact stringBody_escape (by decide) (by decide) rest

/-- Written characters are read as their units up to the closing quote. -/
theorem stringBody_written (chars rest : List Char) :
    stringBody (chars.flatMap escapedChar ++ '"' :: rest) =
      some (chars.flatMap charUnits, rest) := by
  induction chars with
  | nil =>
      rw [List.flatMap_nil, List.nil_append, stringBody]
      rfl
  | cons c chars inductionHypothesis =>
      rw [List.flatMap_cons, List.append_assoc, stringBody_escapedChar_append,
        inductionHypothesis]
      rfl

/-- A written text is read as its units from behind its opening quote. -/
theorem writtenString_units (text : String) (rest : List Char) :
    ∃ body,
      writtenString (units text) ++ rest = '"' :: body ∧
        stringBody body = some (units text, rest) := by
  refine ⟨text.toList.flatMap escapedChar ++ '"' :: rest, ?_, stringBody_written _ _⟩
  rw [writtenString, units, charsOfUnits_flatMap_charUnits]
  simp

/-- The units of a text are that text. -/
theorem textOfUnits?_units (text : String) : textOfUnits? (units text) = some text := by
  have back : String.ofList (Text.charsOfUnits (units text)) = text := by
    rw [units, charsOfUnits_flatMap_charUnits, String.ofList_toList]
  rw [textOfUnits?, back, if_pos rfl]

/-! ## Parts with commas between them -/

/-- A character that is no blank is not skipped. -/
theorem skipBlank_cons
    {c : Char}
    (visible : isBlank c = false)
    (rest : List Char) :
    skipBlank (c :: rest) = c :: rest := by
  rw [skipBlank, List.dropWhile_cons_of_neg (by simp [visible])]

/-- Each of the parts is no longer than all of them with commas between them. -/
theorem length_le_length_intercalate
    {pieces : List (List Char)}
    {piece : List Char}
    (member : piece ∈ pieces) :
    piece.length ≤ ([','].intercalate pieces).length := by
  induction pieces with
  | nil =>
      cases member
  | cons first others inductionHypothesis =>
      cases others with
      | nil =>
          simp_all
      | cons second others =>
          rw [List.intercalate_cons_cons, List.length_append, List.length_append]
          rcases List.mem_cons.mp member with rfl | later
          · omega
          · have := inductionHypothesis later
            omega

/-- There are at most as many commas between parts as there are characters in all. -/
theorem length_le_length_intercalate_add_one (pieces : List (List Char)) :
    pieces.length ≤ ([','].intercalate pieces).length + 1 := by
  induction pieces with
  | nil =>
      simp
  | cons first others inductionHypothesis =>
      cases others with
      | nil =>
          simp
      | cons second others =>
          rw [List.intercalate_cons_cons, List.length_append, List.length_append]
          simp only [List.length_cons, List.length_nil] at inductionHypothesis ⊢
          omega

section Parts

variable {α : Type} {part : List Char → Option (α × List Char)} {written : α → List Char}
  {close : Char}

/-- Written parts are read back up to the closing character. -/
theorem separated_written
    (closeVisible : isBlank close = false)
    (closeNotComma : close ≠ ',')
    {items : List α}
    (nonempty : items ≠ [])
    (each : ∀ item ∈ items, ∀ rest, part (written item ++ rest) = some (item, rest))
    {bound : Nat}
    (enough : items.length ≤ bound)
    (rest : List Char) :
    separated part close bound ([','].intercalate (items.map written) ++ close :: rest) =
      some (items, rest) := by
  induction items generalizing bound with
  | nil =>
      exact absurd rfl nonempty
  | cons item others inductionHypothesis =>
      obtain ⟨bound, rfl⟩ : ∃ less, bound = less + 1 :=
        ⟨bound - 1, by simp only [List.length_cons] at enough; omega⟩
      cases others with
      | nil =>
          have readsFirst := each item (by simp) (close :: rest)
          rw [List.map_singleton, List.intercalate_singleton, separated]
          simp [readsFirst, skipBlank_cons closeVisible]
      | cons next others =>
          have readsOthers :=
            inductionHypothesis (by simp) (fun other isOther => each other (by simp [isOther]))
              (by simpa using enough)
          have readsFirst := each item (by simp)
            (',' :: ([','].intercalate ((next :: others).map written) ++ close :: rest))
          rw [List.map_cons, List.map_cons, List.intercalate_cons_cons, ← List.map_cons,
            List.append_assoc, List.append_assoc, List.singleton_append, separated, readsFirst]
          simp only [Option.bind_eq_bind, Option.bind_some,
            skipBlank_cons (show isBlank ',' = false from rfl), closeNotComma.symm, ↓reduceIte,
            readsOthers]
          rfl

/-- Written parts are read back if they start like no end of a list and there is a bound for what is
written for all of them. -/
theorem enclosed_written
    (closeVisible : isBlank close = false)
    (closeNotComma : close ≠ ',')
    {items : List α}
    {bound : Nat}
    (each :
      ∀ item ∈ items,
        ∀ rest, (written item).length ≤ bound → part (written item ++ rest) = some (item, rest))
    (starts :
      ∀ item ∈ items, ∃ c rest, written item = c :: rest ∧ isBlank c = false ∧ c ≠ close)
    (enough : ([','].intercalate (items.map written)).length < bound)
    (rest : List Char) :
    enclosed part close bound ([','].intercalate (items.map written) ++ close :: rest) =
      some (items, rest) := by
  have few := length_le_length_intercalate_add_one (items.map written)
  rw [List.length_map] at few
  have reads (item : α) (isItem : item ∈ items) (rest : List Char) :
      part (written item ++ rest) = some (item, rest) := by
    have brief := length_le_length_intercalate (List.mem_map_of_mem (f := written) isItem)
    exact each item isItem rest (by omega)
  cases items with
  | nil =>
      simp [enclosed, skipBlank_cons closeVisible]
  | cons item others =>
      -- The first character decides whether there are any parts, so it must not be the end.
      obtain ⟨c, tail, start, visible, notClose⟩ := starts item (by simp)
      obtain ⟨text, whole⟩ :
          ∃ text, [','].intercalate ((item :: others).map written) ++ close :: rest =
            c :: text := by
        cases others <;> simp [List.intercalate_cons_cons, start]
      rw [enclosed, whole, skipBlank_cons visible]
      simp only [notClose, ↓reduceIte]
      rw [← whole]
      exact separated_written closeVisible closeNotComma (by simp) reads (by omega) rest

end Parts

/-! ## Values -/

namespace Value

/-- The items of an array are written with commas between them. -/
theorem writtenItems_eq_intercalate (items : List Value) :
    writtenItems items = [','].intercalate (items.map written) := by
  induction items with
  | nil =>
      rw [writtenItems, List.map_nil, List.intercalate_nil]
  | cons item others inductionHypothesis =>
      cases others with
      | nil =>
          rw [writtenItems, List.map_singleton, List.intercalate_singleton]
      | cons next others =>
          rw [writtenItems, inductionHypothesis]
          simp [List.intercalate_cons_cons]

/-- A written member. -/
def writtenMember (member : List UInt16 × Value) : List Char :=
  writtenString member.1 ++ ':' :: member.2.written

/-- The members of an object are written with commas between them. -/
theorem writtenMembers_eq_intercalate (members : List (List UInt16 × Value)) :
    writtenMembers members = [','].intercalate (members.map writtenMember) := by
  induction members with
  | nil =>
      rw [writtenMembers, List.map_nil, List.intercalate_nil]
  | cons member others inductionHypothesis =>
      cases others with
      | nil =>
          rw [writtenMembers, List.map_singleton, List.intercalate_singleton, writtenMember]
      | cons next others =>
          rw [writtenMembers, inductionHypothesis]
          simp [List.intercalate_cons_cons, writtenMember]

/-- A value made of texts, arrays and records. -/
inductive Textual : Value → Prop where
  | text (text : String) : Textual (ofText text)
  | array (items : List Value) (each : ∀ item ∈ items, Textual item) : Textual (.array items)
  | record (members : List (String × Value)) (each : ∀ member ∈ members, Textual member.2) :
      Textual (record members)

/-- A value that is read back from what is written for it, whatever follows, within every bound
that the size of its text meets; it starts like no end of an array. -/
structure ReadsBack (value : Value) : Prop where
  reads :
    ∀ bound rest,
      value.written.length ≤ bound → value? bound (value.written ++ rest) = some (value, rest)
  starts : ∃ c rest, value.written = c :: rest ∧ isBlank c = false ∧ c ≠ ']'

/-- A text is read back. -/
theorem readsBack_ofText (text : String) : (ofText text).ReadsBack where
  reads bound rest _ := by
    obtain ⟨body, whole, isText⟩ := writtenString_units text rest
    rw [ofText, written, whole]
    cases bound <;> simp [value?, scalar?, skipBlank_cons (show isBlank '"' = false from rfl), isText]
  starts := by
    rw [ofText, written, writtenString]
    exact ⟨'"', _, rfl, rfl, by decide⟩

/-- An array is read back if its items are. -/
theorem readsBack_array
    {items : List Value}
    (each : ∀ item ∈ items, item.ReadsBack) :
    (array items).ReadsBack where
  reads bound rest enough := by
    rw [written, writtenItems_eq_intercalate] at enough ⊢
    simp only [List.length_append, List.length_cons, List.length_nil] at enough
    obtain ⟨bound, rfl⟩ : ∃ less, bound = less + 1 := ⟨bound - 1, by omega⟩
    have readsItems :
        enclosed (value? bound) ']' bound ([','].intercalate (items.map written) ++ ']' :: rest) =
          some (items, rest) :=
      enclosed_written rfl (by decide) (fun item isItem => (each item isItem).reads bound)
        (fun item isItem => (each item isItem).starts) (by omega) rest
    simp [value?, skipBlank_cons (show isBlank '[' = false from rfl), readsItems]
  starts := by
    rw [written]
    exact ⟨'[', _, rfl, rfl, by decide⟩

/-- A member is read back if its value is. -/
theorem member?_written
    {value : Value}
    (readsBack : value.ReadsBack)
    (name : String)
    (bound : Nat)
    (rest : List Char)
    (enough : (writtenMember (Text.units name, value)).length ≤ bound) :
    member? (value? bound) (writtenMember (Text.units name, value) ++ rest) =
      some ((Text.units name, value), rest) := by
  obtain ⟨body, whole, isText⟩ := writtenString_units name (':' :: (value.written ++ rest))
  have start : writtenMember (Text.units name, value) ++ rest = '"' :: body := by
    rw [← whole, writtenMember, List.append_assoc, List.cons_append]
  simp only [writtenMember, List.length_append, List.length_cons] at enough
  have readsValue := readsBack.reads bound rest (by omega)
  rw [start, member?, skipBlank_cons rfl]
  simp [isText, skipBlank_cons (show isBlank ':' = false from rfl), readsValue]

/-- An object is read back if its names are texts and the values of its members are read back. -/
theorem readsBack_object
    {members : List (List UInt16 × Value)}
    (names : ∀ member ∈ members, ∃ name, member.1 = Text.units name)
    (values : ∀ member ∈ members, member.2.ReadsBack) :
    (object members).ReadsBack where
  reads bound rest enough := by
    rw [written, writtenMembers_eq_intercalate] at enough ⊢
    simp only [List.length_append, List.length_cons, List.length_nil] at enough
    obtain ⟨bound, rfl⟩ : ∃ less, bound = less + 1 := ⟨bound - 1, by omega⟩
    have each (member : List UInt16 × Value) (isMember : member ∈ members) (rest : List Char)
        (brief : (writtenMember member).length ≤ bound) :
        member? (value? bound) (writtenMember member ++ rest) = some (member, rest) := by
      obtain ⟨name, isName⟩ := names member isMember
      obtain ⟨_, value⟩ := member
      cases isName
      exact member?_written (values _ isMember) name bound rest brief
    have starts (member : List UInt16 × Value) (_ : member ∈ members) :
        ∃ c rest, writtenMember member = c :: rest ∧ isBlank c = false ∧ c ≠ '}' :=
      ⟨'"', _, rfl, rfl, by decide⟩
    have readsMembers := enclosed_written rfl (by decide) each starts (by omega) rest
    simp [value?, skipBlank_cons (show isBlank '{' = false from rfl), readsMembers]
  starts := by
    rw [written]
    exact ⟨'{', _, rfl, rfl, by decide⟩

/-- A value made of texts, arrays and records is read back. -/
theorem Textual.readsBack
    {value : Value}
    (textual : value.Textual) :
    value.ReadsBack := by
  induction textual with
  | text text =>
      exact readsBack_ofText text
  | array items _ inductionHypothesis =>
      exact readsBack_array inductionHypothesis
  | record members _ inductionHypothesis =>
      refine readsBack_object (fun named isNamed => ?_) (fun named isNamed => ?_)
      · obtain ⟨member, -, rfl⟩ := List.mem_map.mp isNamed
        exact ⟨member.1, rfl⟩
      · obtain ⟨member, isMember, rfl⟩ := List.mem_map.mp isNamed
        exact inductionHypothesis member isMember

end Value

/-- The text of a value made of texts, arrays and records is that value. -/
theorem parse?_render
    {value : Value}
    (textual : value.Textual) :
    parse? value.render = some value := by
  have reads := textual.readsBack.reads value.written.length [] (Nat.le_refl _)
  rw [List.append_nil] at reads
  rw [parse?, Value.render, String.length_ofList, String.toList_ofList, reads]
  rfl

end DexPatch.Json
