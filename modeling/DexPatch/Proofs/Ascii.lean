import Mathlib
import DexPatch.Proofs.Texts

namespace DexPatch

/-!
# Pool strings that read as ASCII texts

A pool string can hold a text in more than one way, but not if all characters
of the text are ASCII: then its units are the characters, one by one.
-/

/-- All characters of a text are ASCII. -/
def IsAscii (chars : List Char) : Prop := ∀ c ∈ chars, c.toNat < 0x80

instance (chars : List Char) : Decidable (IsAscii chars) :=
  decidable_of_iff (chars.all (·.toNat < 0x80) = true) List.all_iff_forall_prop

/-- The units of ASCII characters. -/
def asciiUnits (chars : List Char) : List UInt16 := chars.map fun c => UInt16.ofNat c.toNat

open Text

/-- An ASCII character is one byte. -/
theorem utf8EncodeChar_of_lt
    {c : Char}
    (small : c.toNat < 0x80) :
    String.utf8EncodeChar c = [UInt8.ofNat c.toNat] ∧ (UInt8.ofNat c.toNat).toNat = c.toNat :=
  ⟨if_pos (show c.val.toNat ≤ 127 from Nat.le_of_lt_succ small),
    UInt8.toNat_ofNat_of_lt' (Nat.lt_trans small (by decide))⟩

/-- The bytes of an ASCII text are read as its characters. -/
theorem unitsOfBytes_utf8Encode
    {chars : List Char}
    (ascii : IsAscii chars) :
    unitsOfBytes (chars.flatMap String.utf8EncodeChar) = asciiUnits chars := by
  induction chars with
  | nil =>
      rfl
  | cons c rest inductionHypothesis =>
      obtain ⟨small, asciiRest⟩ := List.forall_mem_cons.mp ascii
      obtain ⟨encoded, value⟩ := utf8EncodeChar_of_lt small
      rw [List.flatMap_cons, encoded, List.singleton_append, unitsOfBytes.eq_def]
      dsimp only
      rw [value, if_pos small, inductionHypothesis asciiRest]
      rfl

/-- The character of a unit that is no surrogate has the value of the unit. -/
theorem ofNat_toNat_ofNat
    {unit : UInt16}
    (plain : ¬ (isLeading unit || isTrailing unit) = true) :
    UInt16.ofNat (Char.ofNat unit.toNat).toNat = unit := by
  have valid : unit.toNat.isValidChar := by
    have small := unit.toNat_lt
    simp only [isLeading, isTrailing, Bool.or_eq_true, Bool.and_eq_true, decide_eq_true_eq] at plain
    simp only [Nat.isValidChar]
    omega
  rw [Char.toNat_ofNat, if_pos valid, UInt16.ofNat_toNat]

theorem not_ascii_replacement : ¬ replacement.toNat < 0x80 := by decide +kernel

/-- The value of the character of a surrogate pair. -/
theorem toNat_pairChar
    {leading trailing : UInt16}
    (isFirst : isLeading leading = true)
    (isSecond : isTrailing trailing = true) :
    (pairChar leading trailing).toNat =
      0x10000 + (leading.toNat - 0xd800) * 0x400 + (trailing.toNat - 0xdc00) := by
  simp only [isLeading, isTrailing, Bool.and_eq_true, decide_eq_true_eq] at isFirst isSecond
  have valid :
      (0x10000 + (leading.toNat - 0xd800) * 0x400 + (trailing.toNat - 0xdc00)).isValidChar := by
    simp only [Nat.isValidChar]
    omega
  rw [pairChar, Char.toNat_ofNat, if_pos valid]

/-- A surrogate pair stands for no ASCII character. -/
theorem not_ascii_pairChar
    {leading trailing : UInt16}
    (isFirst : isLeading leading = true)
    (isSecond : isTrailing trailing = true) :
    ¬ (pairChar leading trailing).toNat < 0x80 := by
  rw [toNat_pairChar isFirst isSecond]
  omega

/-- Units that read as ASCII characters are these characters. -/
theorem eq_asciiUnits
    {units : List UInt16}
    (ascii : IsAscii (charsOfUnits units)) :
    units = asciiUnits (charsOfUnits units) := by
  fun_induction charsOfUnits units with
  | case1 =>
      rfl
  | case2 unit surrogate =>
      exact absurd (ascii _ List.mem_cons_self) not_ascii_replacement
  | case3 unit plain =>
      rw [asciiUnits, List.map_singleton, ofNat_toNat_ofNat plain]
  | case4 unit next rest leading trailing inductionHypothesis =>
      exact absurd (ascii _ List.mem_cons_self) (not_ascii_pairChar leading trailing)
  | case5 unit next rest leading plain inductionHypothesis =>
      exact absurd (ascii _ List.mem_cons_self) not_ascii_replacement
  | case6 unit next rest plain trailing inductionHypothesis =>
      exact absurd (ascii _ List.mem_cons_self) not_ascii_replacement
  | case7 unit next rest notLeading notTrailing inductionHypothesis =>
      have plain : ¬ (isLeading unit || isTrailing unit) = true := by
        simp [notLeading, notTrailing]
      have later := inductionHypothesis (List.forall_mem_cons.mp ascii).2
      rw [asciiUnits, List.map_cons, ofNat_toNat_ofNat plain]
      exact congrArg _ later

/-- A string that reads as an ASCII text has the units of the text. -/
theorem PoolString.units_of_text
    {string : PoolString}
    {text : String}
    (ascii : IsAscii text.toList)
    (reads : string.text = text) :
    string.units = asciiUnits text.toList := by
  rw [PoolString.text] at reads
  split at reads
  · next utf8 isUtf8 =>
    subst reads
    rw [units, ← utf8Encode_of_utf8? isUtf8, unitsOfBytes_utf8Encode ascii]
  · subst reads
    rw [String.toList_ofList] at ascii ⊢
    exact eq_asciiUnits ascii

end DexPatch
