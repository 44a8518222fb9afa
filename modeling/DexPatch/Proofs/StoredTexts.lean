import DexPatch.Proofs.Tables
import DexPatch.Proofs.Texts

namespace DexPatch

open Text

/-!
# Stored texts

The pool string of a text has the text's code units and reads as the text and as
no other.  Written into an image, it is read back as it is, wherever it stands
and whatever follows it.
-/

namespace PoolString

/-- The code units of a stored text are those of the text. -/
theorem units_ofText (text : String) : (ofText text).units = Text.units text :=
  unitsOfBytes_flatMap_unitBytes (Text.units text)

/-- A stored text reads as itself and as no other text. -/
theorem reads_ofText_iff
    {text other : String} :
    (ofText text).reads other = true ↔ other = text := by
  rw [reads, beq_iff_eq, text_ofText, eq_comm]

/-- Different texts are stored differently. -/
theorem ofText_injective : Function.Injective ofText := by
  intro text other same
  rw [← text_ofText text, same, text_ofText]

/-- A string without zero bytes is read from wherever its written form stands. -/
theorem stringAt_of_written
    {string : PoolString}
    (noZero : 0 ∉ string.data)
    (before after : List UInt8) :
    stringAt (before ++ string.bytes ++ after).toArray before.length = .ok string :=
  stringAt_of_holds noZero (Holds.iff_exists.mpr ⟨before, after, rfl, rfl⟩)

/-- The pool string holds the text, with nothing lost. -/
structure Stores (string : PoolString) (text : String) : Prop where
  noZero : 0 ∉ string.data
  units : string.units = Text.units text
  length : string.utf16Length.toNat = (Text.units text).length
  readsAs : string.text = text
  only : ∀ other, string.reads other = true ↔ other = text
  /-- The string is read back from an image, whatever stands around it. -/
  reread :
    ∀ before after : List UInt8,
      stringAt (before ++ string.bytes ++ after).toArray before.length = .ok string

/-- A text of fewer than 2³² code units is stored with nothing lost, and differently from every
other text. -/
theorem ofText_stores
    {text : String}
    (short : (Text.units text).length < 4294967296) :
    (ofText text).Stores text ∧ ∀ other, ofText other = ofText text → other = text := by
  refine ⟨?_, fun other same => ofText_injective same⟩
  exact
    { noZero := zero_notMem_ofText text
      units := units_ofText text
      length := UInt32.toNat_ofNat_of_lt' short
      readsAs := text_ofText text
      only := fun _ => reads_ofText_iff
      reread := stringAt_of_written (zero_notMem_ofText text) }

/-- A letter, a zero character, an accented letter and a character outside the basic plane are
stored in eleven bytes and come back as five code units. -/
theorem ofText_stores_supplementary :
    let text := "a\x00é😀"
    (Text.units text).length < 4294967296 ∧
      (ofText text).data = [0x61, 0xc0, 0x80, 0xc3, 0xa9, 0xed, 0xa0, 0xbd, 0xed, 0xb8, 0x80] ∧
        (ofText text).units = [0x61, 0, 0xe9, 0xd83d, 0xde00] ∧ (ofText text).Stores text := by
  intro text
  have units : Text.units text = [0x61, 0, 0xe9, 0xd83d, 0xde00] := by decide +kernel
  have short : (Text.units text).length < 4294967296 := by
    rw [units]
    decide
  have stores := (ofText_stores short).1
  exact ⟨short, by decide +kernel, stores.units.trans units, stores⟩

end PoolString

end DexPatch
