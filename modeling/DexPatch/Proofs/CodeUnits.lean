import Mathlib
import DexPatch.Proofs.Ascii

namespace DexPatch

/-!
# Pool strings and the texts they spell

A pool string is what its code units are.  It is compared with texts by a view
that is a text, though: its bytes read as UTF-8 or, failing that, its units with
unpaired surrogates replaced.  The two agree exactly if the view shows every
unit, which it does unless a surrogate is unpaired or the bytes are UTF-8 of a
character outside the basic plane, which the units do not have.
-/

namespace Text

/-- Is every surrogate half of a pair? -/
def isPaired : List UInt16 → Bool
  | [] => true
  | [unit] => !(isLeading unit || isTrailing unit)
  | unit :: next :: rest =>
    if isLeading unit then isTrailing next && isPaired rest
    else !isTrailing unit && isPaired (next :: rest)

/-! ## Units that are those of a text -/

/-- A unit that is no surrogate is the unit of a character. -/
theorem charUnits_ofNat
    {unit : UInt16}
    (plain : ¬ (isLeading unit || isTrailing unit) = true) :
    charUnits (Char.ofNat unit.toNat) = [unit] := by
  have small : (Char.ofNat unit.toNat).toNat < 0x10000 := by
    have bound := unit.toNat_lt
    rw [Char.toNat_ofNat]
    split
    · exact bound
    · decide
  rw [charUnits, if_pos small, ofNat_toNat_ofNat plain]

/-- A surrogate pair is the units of its character. -/
theorem charUnits_pairChar
    {leading trailing : UInt16}
    (isFirst : isLeading leading = true)
    (isSecond : isTrailing trailing = true) :
    charUnits (pairChar leading trailing) = [leading, trailing] := by
  have value := toNat_pairChar isFirst isSecond
  simp only [isLeading, isTrailing, Bool.and_eq_true, decide_eq_true_eq] at isFirst isSecond
  have high : 0xd800 + ((pairChar leading trailing).toNat - 0x10000) / 0x400 = leading.toNat := by
    omega
  have low : 0xdc00 + ((pairChar leading trailing).toNat - 0x10000) % 0x400 = trailing.toNat := by
    omega
  rw [charUnits, if_neg (by omega)]
  dsimp only
  rw [high, low, UInt16.ofNat_toNat, UInt16.ofNat_toNat]

/-- No surrogate is the unit of the replacement character. -/
theorem charUnits_replacement_append_ne
    (unit : UInt16)
    (surrogate : (isLeading unit || isTrailing unit) = true)
    (later rest : List UInt16) :
    charUnits replacement ++ later ≠ unit :: rest := by
  have single : charUnits replacement = [replacementUnit] := by decide +kernel
  rw [single, List.singleton_append]
  rintro same
  obtain ⟨rfl, -⟩ := List.cons.inj same
  exact absurd surrogate (by decide)

/-- Units are shown in full exactly if every surrogate is half of a pair. -/
theorem flatMap_charsOfUnits_iff (units : List UInt16) :
    (charsOfUnits units).flatMap charUnits = units ↔ isPaired units = true := by
  fun_induction charsOfUnits units with
  | case1 =>
      simp [isPaired]
  | case2 unit surrogate =>
      have differ := charUnits_replacement_append_ne unit surrogate [] []
      simpa [isPaired, surrogate] using differ
  | case3 unit plain =>
      rw [List.flatMap_singleton, charUnits_ofNat plain]
      simpa [isPaired] using plain
  | case4 unit next rest leading trailing inductionHypothesis =>
      rw [List.flatMap_cons, charUnits_pairChar leading trailing, List.cons_append,
        List.singleton_append, List.cons.injEq, List.cons.injEq, inductionHypothesis]
      simp [isPaired, leading, trailing]
  | case5 unit next rest leading unpaired inductionHypothesis =>
      have differ := charUnits_replacement_append_ne unit (by rw [leading]; rfl)
        ((charsOfUnits (next :: rest)).flatMap charUnits) (next :: rest)
      rw [List.flatMap_cons]
      simpa [isPaired, leading, unpaired] using differ
  | case6 unit next rest notLeading trailing inductionHypothesis =>
      have differ := charUnits_replacement_append_ne unit (by rw [trailing, Bool.or_true])
        ((charsOfUnits (next :: rest)).flatMap charUnits) (next :: rest)
      rw [List.flatMap_cons]
      simpa [isPaired, notLeading, trailing] using differ
  | case7 unit next rest notLeading notTrailing inductionHypothesis =>
      rw [List.flatMap_cons, charUnits_ofNat (by simp [notLeading, notTrailing]),
        List.singleton_append, List.cons.injEq, inductionHypothesis]
      simp [isPaired, notLeading, notTrailing]

/-- The units of a text are paired. -/
theorem isPaired_units (text : String) : isPaired (units text) = true := by
  rw [← flatMap_charsOfUnits_iff, units, charsOfUnits_flatMap_charUnits]

/-! ## Units of bytes that are well-formed UTF-8 -/

/-- A character of the basic plane is read from its bytes in UTF-8. -/
theorem unitsOfBytes_utf8EncodeChar_append
    {c : Char}
    (plain : c.toNat < 0x10000)
    (rest : List UInt8) :
    unitsOfBytes (String.utf8EncodeChar c ++ rest) = charUnits c ++ unitsOfBytes rest := by
  by_cases zero : c.toNat = 0
  · obtain rfl : c = Char.ofNat 0 := by rw [← zero, Char.ofNat_toNat]
    have encoded : String.utf8EncodeChar (Char.ofNat 0) = [0] := by decide
    have unit : charUnits (Char.ofNat 0) = [0] := by decide
    rw [encoded, unit, List.singleton_append, unitsOfBytes.eq_def]
    rfl
  · rw [utf8EncodeChar_eq_unitBytes zero plain, charUnits, if_pos plain, List.flatMap_singleton,
      unitsOfBytes_unitBytes_append, List.singleton_append]

/-- A byte that is not ASCII and starts no unit is read as the replacement unit. -/
theorem unitsOfBytes_stray
    {byte : UInt8}
    (large : ¬ byte.toNat < 0x80)
    (notTwo : byte.toNat / 32 ≠ 6)
    (notThree : byte.toNat / 16 ≠ 14)
    (rest : List UInt8) :
    unitsOfBytes (byte :: rest) = replacementUnit :: unitsOfBytes rest := by
  rw [unitsOfBytes.eq_def]
  dsimp only
  rw [if_neg large, if_neg notTwo, if_neg notThree]

/-- Any other character is read as four replacement units. -/
theorem unitsOfBytes_utf8EncodeChar_outside
    {c : Char}
    (outside : ¬ c.toNat < 0x10000)
    (rest : List UInt8) :
    unitsOfBytes (String.utf8EncodeChar c ++ rest) =
      List.replicate 4 replacementUnit ++ unitsOfBytes rest := by
  have large : 65535 < c.val.toNat := Nat.lt_of_not_le fun le => outside (Nat.lt_succ_of_le le)
  have stray (n : Nat) (many : 128 ≤ n ∧ n < 192 ∨ 240 ≤ n ∧ n < 256) (more : List UInt8) :
      unitsOfBytes (UInt8.ofNat n :: more) = replacementUnit :: unitsOfBytes more := by
    have value : (UInt8.ofNat n).toNat = n := UInt8.toNat_ofNat_of_lt' (show n < 256 by omega)
    exact unitsOfBytes_stray (by omega) (by omega) (by omega) more
  rw [String.utf8EncodeChar, if_neg (by omega), if_neg (by omega), if_neg (by omega)]
  simp only [List.cons_append, List.nil_append]
  rw [stray _ (by omega), stray _ (by omega), stray _ (by omega), stray _ (by omega)]
  rfl

/-- A character outside the basic plane has a surrogate for its first unit. -/
theorem exists_charUnits_outside
    {c : Char}
    (outside : ¬ c.toNat < 0x10000) :
    ∃ leading trailing, isLeading leading = true ∧ charUnits c = [leading, trailing] := by
  have bound : c.toNat < 0x110000 := by
    have valid : c.toNat < 0xd800 ∨ 0xdfff < c.toNat ∧ c.toNat < 0x110000 := c.valid
    omega
  refine ⟨_, _, ?_, by rw [charUnits, if_neg outside]⟩
  rw [isLeading, UInt16.toNat_ofNat_of_lt' (show _ < 65536 by omega)]
  simp only [Bool.and_eq_true, decide_eq_true_eq]
  omega

/-- The bytes of characters in UTF-8 are read as their units exactly if all of them are in the
basic plane. -/
theorem unitsOfBytes_utf8_iff (chars : List Char) :
    unitsOfBytes (chars.flatMap String.utf8EncodeChar) = chars.flatMap charUnits ↔
      ∀ c ∈ chars, c.toNat < 0x10000 := by
  induction chars with
  | nil =>
      simp [unitsOfBytes]
  | cons c rest inductionHypothesis =>
      rw [List.flatMap_cons, List.flatMap_cons, List.forall_mem_cons]
      by_cases plain : c.toNat < 0x10000
      · rw [unitsOfBytes_utf8EncodeChar_append plain, List.append_cancel_left_eq,
          inductionHypothesis, and_iff_right plain]
      · obtain ⟨leading, trailing, isFirst, units⟩ := exists_charUnits_outside plain
        have differ : replacementUnit ≠ leading := by
          rintro rfl
          exact absurd isFirst (by decide)
        rw [unitsOfBytes_utf8EncodeChar_outside plain, units]
        simp [List.replicate, differ, plain]

end Text

namespace PoolString

open Text

/-- The string has exactly the code units of the text. -/
def Spells (string : PoolString) (text : String) : Prop := string.units = Text.units text

instance (string : PoolString) (text : String) : Decidable (string.Spells text) :=
  inferInstanceAs (Decidable (string.units = Text.units text))

/-- The view of the string as a text shows every code unit. -/
structure ShowsUnits (string : PoolString) : Prop where
  /-- If the bytes are UTF-8, no character is outside the basic plane. -/
  basic : ∀ text, utf8? string.data = some text → ∀ c ∈ text.toList, c.toNat < 0x10000
  paired : isPaired string.units = true

/-- Bytes that are UTF-8 spell the text that they are exactly if it is in the basic plane. -/
theorem spells_utf8_iff
    {string : PoolString}
    {text : String}
    (isText : utf8? string.data = some text) :
    string.Spells text ↔ ∀ c ∈ text.toList, c.toNat < 0x10000 := by
  rw [Spells, units, ← utf8Encode_of_utf8? isText, Text.units, unitsOfBytes_utf8_iff]

/-- A string spells the text that it is shown as exactly if every unit is shown. -/
theorem spells_text_iff {string : PoolString} : string.Spells string.text ↔ string.ShowsUnits := by
  rw [text]
  cases isUtf8 : utf8? string.data with
  | some text =>
      dsimp only
      constructor
      · intro spells
        refine ⟨fun other isOther => ?_, ?_⟩
        · rw [isUtf8] at isOther
          rw [← Option.some.inj isOther]
          exact (spells_utf8_iff isUtf8).mp spells
        · rw [show string.units = Text.units text from spells]
          exact isPaired_units text
      · intro shows
        exact (spells_utf8_iff isUtf8).mpr (shows.basic text isUtf8)
  | none =>
      dsimp only
      rw [Spells, Text.units, String.toList_ofList, eq_comm, flatMap_charsOfUnits_iff]
      refine ⟨fun paired => ⟨fun text isText => ?_, paired⟩, fun shows => shows.paired⟩
      rw [isUtf8] at isText
      cases isText

/-- A string reads as the texts that it spells, and as no others, exactly if every unit is
shown. -/
theorem reads_iff_spells_iff {string : PoolString} :
    (∀ text, string.reads text = true ↔ string.Spells text) ↔ string.ShowsUnits := by
  rw [← spells_text_iff]
  constructor
  · intro agree
    exact (agree string.text).mp (beq_self_eq_true _)
  · intro spells text
    rw [reads, beq_iff_eq]
    constructor
    · rintro rfl
      exact spells
    · intro spelled
      exact units_injective ((show string.units = _ from spells).symm.trans spelled)

/-- Every unit of a stored text is shown. -/
theorem showsUnits_ofText (text : String) : (ofText text).ShowsUnits := by
  rw [← spells_text_iff, text_ofText]
  exact unitsOfBytes_flatMap_unitBytes (Text.units text)

end PoolString

end DexPatch
