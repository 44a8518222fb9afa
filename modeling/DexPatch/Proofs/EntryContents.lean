import Mathlib.Data.List.TakeWhile
import DexPatch.Archive.Entry
import DexPatch.Proofs.Deflated
import DexPatch.Proofs.Reading

namespace DexPatch

/-!
# Contents of entries

An entry can be opened if it is neither encrypted nor in a form that cannot be
read, and if it stands where the directory says.  New content is read from an
entry as it was given, in the form that the entry had.
-/

/-- The names of images in archives: `classes.dex`, with any number of digits before the dot. -/
def IsImageName (name : String) : Prop :=
  ∃ digits : List Char,
    (∀ c ∈ digits, c.isDigit = true) ∧ name.toList = "classes".toList ++ digits ++ ".dex".toList

/-- What stands behind digits is found by passing over digits. -/
theorem dropWhile_isDigit_eq_iff {text : List Char} :
    text.dropWhile Char.isDigit = ".dex".toList ↔
      ∃ digits : List Char,
        (∀ c ∈ digits, c.isDigit = true) ∧ text = digits ++ ".dex".toList := by
  constructor
  · intro behind
    refine ⟨text.takeWhile Char.isDigit, fun c member => ?_, ?_⟩
    · exact List.mem_takeWhile_imp member
    · rw [← behind, List.takeWhile_append_dropWhile]
  · rintro ⟨digits, areDigits, rfl⟩
    rw [List.dropWhile_append_of_pos areDigits]
    decide +kernel

theorem Entry.isDexName_iff {name : String} : Entry.isDexName name = true ↔ IsImageName name := by
  rw [Entry.isDexName]
  split
  · next rest isName =>
    rw [beq_iff_eq, dropWhile_isDigit_eq_iff, IsImageName, isName]
    simp
  · next other =>
    simp only [Bool.false_eq_true, false_iff]
    rintro ⟨digits, -, isName⟩
    exact other (digits ++ ".dex".toList) isName

instance (name : String) : Decidable (IsImageName name) := decidable_of_iff _ Entry.isDexName_iff

namespace Entry

variable {entry : Entry}

/-- An entry can be opened: it is not encrypted, stands where the directory says, and is in a form
that can be read. -/
structure Opens (entry : Entry) : Prop where
  plain : entry.encrypted = false
  there : entry.data.isSome = true
  form : entry.compression = .stored ∨ entry.compression = .deflated

theorem opens_iff : entry.Opens ↔ ∃ data, entry.readable = .ok data := by
  constructor
  · rintro ⟨plain, there, form⟩
    obtain ⟨data, isData⟩ := Option.isSome_iff_exists.mp there
    refine ⟨data, ?_⟩
    rw [readable, plain, isData]
    obtain isForm | isForm := form <;> rw [isForm] <;> rfl
  · rintro ⟨data, found⟩
    rw [readable] at found
    split at found
    · cases found
    · next plain =>
      split at found
      · cases found
      · cases found
      · next isData other =>
        refine ⟨Bool.not_eq_true _ ▸ plain, by rw [isData]; rfl, ?_⟩
        cases isForm : entry.compression with
        | stored => exact .inl rfl
        | deflated => exact .inr rfl
        | unsupported code => exact (other code isForm).elim

/-- The content of an entry that can be opened is what its stored form expands to, if the checksum
is right. -/
theorem content_of_expand
    {data content : Bytes}
    (opened : entry.readable = .ok data)
    (expanded : expand entry.compression data = .ok content)
    (right : Digest.crc32 content = entry.checksum) :
    entry.content = .ok content := by
  rw [Entry.content, bind_of_ok opened, bind_of_ok expanded, if_pos right]
  rfl

/-- An entry with a new content gives it. -/
theorem content_withContent (opens : entry.Opens) (content : Bytes) :
    (entry.withContent content).content = .ok content := by
  obtain ⟨plain, -, isStored | isDeflated⟩ := opens
  · have opened : (entry.withContent content).readable = .ok content := by
      simp [withContent, readable, plain, isStored]
    exact content_of_expand opened (by simp [withContent, isStored, expand]) rfl
  · have opened :
        (entry.withContent content).readable = .ok (Archive.deflate content.toList).toArray := by
      simp [withContent, readable, plain, isDeflated]
    refine content_of_expand opened ?_ rfl
    simp [withContent, isDeflated, expand, Archive.inflate_deflate]

/-- An entry that holds a content as it is. -/
def plain (name : String) (content : Bytes) : Entry :=
  { name, compression := .stored, encrypted := false, checksum := Digest.crc32 content
    size := content.size, data := some content, modified := newTime, attributes := 0 }

theorem opens_plain (name : String) (content : Bytes) : (plain name content).Opens :=
  ⟨rfl, rfl, .inl rfl⟩

theorem content_plain (name : String) (content : Bytes) :
    (plain name content).content = .ok content :=
  content_of_expand rfl rfl rfl

end Entry

end DexPatch
