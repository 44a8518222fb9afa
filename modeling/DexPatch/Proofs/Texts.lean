import Mathlib.Data.List.Basic
import Mathlib.Logic.Function.Basic
import DexPatch.Text.Modified

namespace DexPatch

/-!
# Texts survive being stored

A text is stored as the bytes of its code units.  The units are read back from
the bytes and the characters from the units, whatever the text.  A stored text
is read as UTF-8 first; this succeeds only where its bytes are the same in both
forms, since neither a zero byte nor one that starts a character outside the
basic plane is ever stored.
-/

open Text

/-! ## Bytes of code units -/

/-- No stored unit has a zero byte. -/
theorem zero_notMem_unitBytes (unit : UInt16) : 0 ∉ unitBytes unit := by
  have small := unit.toNat_lt
  have nonzero (n : Nat) (positive : 0 < n) (fits : n < 256) : 0 ≠ UInt8.ofNat n := by
    intro same
    have value : 0 = (UInt8.ofNat n).toNat := congrArg UInt8.toNat same
    rw [UInt8.toNat_ofNat_of_lt' fits] at value
    exact Nat.ne_of_lt positive value
  rw [unitBytes]
  split
  · next plain =>
    simpa using nonzero _ plain.1 (by omega)
  · split
    · simp only [List.mem_cons, List.not_mem_nil, or_false, not_or]
      exact ⟨nonzero _ (by omega) (by omega), nonzero _ (by omega) (by omega)⟩
    · simp only [List.mem_cons, List.not_mem_nil, or_false, not_or]
      exact ⟨nonzero _ (by omega) (by omega), nonzero _ (by omega) (by omega),
        nonzero _ (by omega) (by omega)⟩

/-- The pool string of a text has no zero byte. -/
theorem PoolString.zero_notMem_ofText (text : String) : 0 ∉ (ofText text).data := by
  intro member
  obtain ⟨unit, -, isZero⟩ := List.mem_flatMap.mp member
  exact zero_notMem_unitBytes unit isZero

/-- No stored unit has a byte that starts a character of four bytes. -/
theorem lt_of_mem_unitBytes
    {unit : UInt16}
    {byte : UInt8}
    (member : byte ∈ unitBytes unit) :
    byte.toNat < 0xf0 := by
  have small := unit.toNat_lt
  have below (n : Nat) (fits : n < 0xf0) : (UInt8.ofNat n).toNat < 0xf0 := by
    rwa [UInt8.toNat_ofNat_of_lt' (Nat.lt_trans fits (by decide))]
  rw [unitBytes] at member
  split at member
  · obtain rfl := List.mem_singleton.mp member
    exact below _ (by omega)
  · split at member
    · simp only [List.mem_cons, List.not_mem_nil, or_false] at member
      rcases member with rfl | rfl
      · exact below _ (by omega)
      · exact below _ (by omega)
    · simp only [List.mem_cons, List.not_mem_nil, or_false] at member
      rcases member with rfl | rfl | rfl
      · exact below _ (by omega)
      · exact below _ (by omega)
      · exact below _ (by omega)

/-- The bytes of a unit are read as that unit, whatever follows them. -/
theorem unitsOfBytes_unitBytes_append
    (unit : UInt16)
    (rest : List UInt8) :
    unitsOfBytes (unitBytes unit ++ rest) = unit :: unitsOfBytes rest := by
  have small := unit.toNat_lt
  have value (n : Nat) (fits : n < 256) : (UInt8.ofNat n).toNat = n :=
    UInt8.toNat_ofNat_of_lt' fits
  rw [unitBytes]
  split
  · next plain =>
    rw [List.singleton_append, unitsOfBytes.eq_def]
    dsimp only
    rw [value _ (by omega), if_pos plain.2, UInt16.ofNat_toNat]
  · split
    · rw [List.cons_append, List.singleton_append, unitsOfBytes.eq_def]
      dsimp only [low6]
      rw [value _ (by omega), value _ (by omega), if_neg (by omega), if_pos (by omega)]
      have whole : (0xc0 + unit.toNat / 64) % 32 * 64 + (0x80 + unit.toNat % 64) % 64 =
          unit.toNat := by omega
      rw [whole, UInt16.ofNat_toNat]
    · rw [List.cons_append, List.cons_append, List.singleton_append, unitsOfBytes.eq_def]
      dsimp only [low6]
      rw [value _ (by omega), value _ (by omega), value _ (by omega), if_neg (by omega),
        if_neg (by omega), if_pos (by omega)]
      have whole :
          (0xe0 + unit.toNat / 4096) % 16 * 4096 + (0x80 + unit.toNat / 64 % 64) % 64 * 64 +
              (0x80 + unit.toNat % 64) % 64 =
            unit.toNat := by omega
      rw [whole, UInt16.ofNat_toNat]

/-- Stored units are read back. -/
theorem unitsOfBytes_flatMap_unitBytes (units : List UInt16) :
    unitsOfBytes (units.flatMap unitBytes) = units := by
  induction units with
  | nil =>
      rfl
  | cons unit rest inductionHypothesis =>
      rw [List.flatMap_cons, unitsOfBytes_unitBytes_append, inductionHypothesis]

/-! ## Code units of characters -/

/-- A character whose number is that of a unit is no surrogate. -/
theorem not_surrogate_ofNat
    {c : Char}
    (plain : c.toNat < 0x10000) :
    isLeading (UInt16.ofNat c.toNat) = false ∧ isTrailing (UInt16.ofNat c.toNat) = false := by
  have value : (UInt16.ofNat c.toNat).toNat = c.toNat := UInt16.toNat_ofNat_of_lt' plain
  have valid : c.toNat < 0xd800 ∨ 0xdfff < c.toNat ∧ c.toNat < 0x110000 := c.valid
  simp only [isLeading, isTrailing, value, Bool.and_eq_false_iff, decide_eq_false_iff_not]
  omega

/-- The units of a character are read as that character, whatever follows them. -/
theorem charsOfUnits_charUnits_append
    (c : Char)
    (rest : List UInt16) :
    charsOfUnits (charUnits c ++ rest) = c :: charsOfUnits rest := by
  rw [charUnits]
  split
  · next plain =>
    obtain ⟨notLeading, notTrailing⟩ := not_surrogate_ofNat plain
    have value : (UInt16.ofNat c.toNat).toNat = c.toNat := UInt16.toNat_ofNat_of_lt' plain
    cases rest with
    | nil =>
        rw [List.append_nil, charsOfUnits.eq_def]
        dsimp only
        rw [notLeading, notTrailing, if_neg (by decide), value, Char.ofNat_toNat, charsOfUnits]
    | cons next rest =>
        rw [List.singleton_append, charsOfUnits, notLeading, notTrailing, if_neg (by decide),
          if_neg (by decide), value, Char.ofNat_toNat]
  · next outside =>
    have bound : c.toNat < 0x110000 := by
      have valid : c.toNat < 0xd800 ∨ 0xdfff < c.toNat ∧ c.toNat < 0x110000 := c.valid
      omega
    have leading :
        (UInt16.ofNat (0xd800 + (c.toNat - 0x10000) / 0x400)).toNat =
          0xd800 + (c.toNat - 0x10000) / 0x400 :=
      UInt16.toNat_ofNat_of_lt' (show _ < 65536 by omega)
    have trailing :
        (UInt16.ofNat (0xdc00 + (c.toNat - 0x10000) % 0x400)).toNat =
          0xdc00 + (c.toNat - 0x10000) % 0x400 :=
      UInt16.toNat_ofNat_of_lt' (show _ < 65536 by omega)
    have whole :
        0x10000 + (0xd800 + (c.toNat - 0x10000) / 0x400 - 0xd800) * 0x400 +
            (0xdc00 + (c.toNat - 0x10000) % 0x400 - 0xdc00) =
          c.toNat := by omega
    dsimp only
    rw [List.cons_append, List.singleton_append, charsOfUnits, isLeading, isTrailing, leading,
      trailing, if_pos (by simp; omega), if_pos (by simp; omega), pairChar, leading, trailing, whole,
      Char.ofNat_toNat]

/-- The units of characters are read as these characters. -/
theorem charsOfUnits_flatMap_charUnits (chars : List Char) :
    charsOfUnits (chars.flatMap charUnits) = chars := by
  induction chars with
  | nil =>
      rfl
  | cons c rest inductionHypothesis =>
      rw [List.flatMap_cons, charsOfUnits_charUnits_append, inductionHypothesis]

/-- Texts with the same units are the same. -/
theorem units_injective : Function.Injective units := by
  intro first second same
  have chars := congrArg charsOfUnits same
  rw [units, units, charsOfUnits_flatMap_charUnits, charsOfUnits_flatMap_charUnits] at chars
  exact String.toList_inj.mp chars

/-! ## Bytes that are well-formed UTF-8, too -/

/-- Bytes that are read as a text in UTF-8 are those of its characters. -/
theorem utf8Encode_of_utf8?
    {bytes : List UInt8}
    {text : String}
    (isText : utf8? bytes = some text) :
    text.toList.flatMap String.utf8EncodeChar = bytes := by
  rw [utf8?, String.fromUTF8?] at isText
  split at isText
  · have encoded : text.toByteArray = ⟨bytes.toArray⟩ := by
      rw [← Option.some.inj isText]
      rfl
    have data := congrArg (fun bytes : ByteArray => bytes.data.toList)
      (String.utf8Encode_toList.trans encoded)
    simpa [List.utf8Encode] using data
  · cases isText

/-- The bytes of a character, by its value. -/
theorem utf8EncodeChar_eq (c : Char) :
    String.utf8EncodeChar c =
      if c.toNat ≤ 127 then [UInt8.ofNat c.toNat]
      else if c.toNat ≤ 2047 then
        [UInt8.ofNat (c.toNat / 64 % 32 + 192), UInt8.ofNat (c.toNat % 64 + 128)]
      else if c.toNat ≤ 65535 then
        [UInt8.ofNat (c.toNat / 4096 % 16 + 224), UInt8.ofNat (c.toNat / 64 % 64 + 128),
          UInt8.ofNat (c.toNat % 64 + 128)]
      else
        [UInt8.ofNat (c.toNat / 262144 % 8 + 240), UInt8.ofNat (c.toNat / 4096 % 64 + 128),
          UInt8.ofNat (c.toNat / 64 % 64 + 128), UInt8.ofNat (c.toNat % 64 + 128)] :=
  rfl

/-- A character of the basic plane is stored as in UTF-8 if it is not zero. -/
theorem utf8EncodeChar_eq_unitBytes
    {c : Char}
    (nonzero : c.toNat ≠ 0)
    (plain : c.toNat < 0x10000) :
    String.utf8EncodeChar c = (charUnits c).flatMap unitBytes := by
  have value : (UInt16.ofNat c.toNat).toNat = c.toNat := UInt16.toNat_ofNat_of_lt' plain
  rw [charUnits, if_pos plain, List.flatMap_singleton, unitBytes, value, utf8EncodeChar_eq]
  by_cases one : c.toNat < 0x80
  · rw [if_pos (show c.toNat ≤ 127 by omega), if_pos (show 1 ≤ c.toNat ∧ c.toNat < 0x80 by omega)]
  · rw [if_neg (show ¬ c.toNat ≤ 127 by omega),
      if_neg (show ¬ (1 ≤ c.toNat ∧ c.toNat < 0x80) by omega)]
    by_cases two : c.toNat < 0x800
    · have first : c.toNat / 64 % 32 + 192 = 0xc0 + c.toNat / 64 := by omega
      rw [if_pos (show c.toNat ≤ 2047 by omega), if_pos two, first, Nat.add_comm _ 128]
    · have first : c.toNat / 4096 % 16 + 224 = 0xe0 + c.toNat / 4096 := by omega
      rw [if_neg (show ¬ c.toNat ≤ 2047 by omega), if_pos (show c.toNat ≤ 65535 by omega), if_neg two,
        first, Nat.add_comm _ 128, Nat.add_comm _ 128]

/-- A character outside the basic plane starts with a byte in UTF-8 that no unit has. -/
theorem exists_mem_utf8EncodeChar
    {c : Char}
    (outside : 0x10000 ≤ c.toNat) :
    ∃ byte ∈ String.utf8EncodeChar c, 0xf0 ≤ byte.toNat := by
  have large : 65535 < c.val.toNat := outside
  refine ⟨UInt8.ofNat (c.val.toNat / 262144 % 8 + 240), ?_, ?_⟩
  · rw [String.utf8EncodeChar, if_neg (by omega), if_neg (by omega), if_neg (by omega)]
    exact List.mem_cons_self
  · rw [UInt8.toNat_ofNat_of_lt' (show _ < 256 by omega)]
    omega

/-- Bytes that are stored for some text and are well-formed UTF-8, too, are those stored for the
text that they are in UTF-8. -/
theorem units_of_utf8?
    {units : List UInt16}
    {text : String}
    (isText : utf8? (units.flatMap unitBytes) = some text) :
    Text.units text = units := by
  have bytes := utf8Encode_of_utf8? isText
  have stored (c : Char) (member : c ∈ text.toList) :
      String.utf8EncodeChar c = (charUnits c).flatMap unitBytes := by
    have isByte {byte : UInt8} (isIn : byte ∈ String.utf8EncodeChar c) :
        byte ≠ 0 ∧ byte.toNat < 0xf0 := by
      have isStored : byte ∈ units.flatMap unitBytes :=
        bytes ▸ List.mem_flatMap.mpr ⟨c, member, isIn⟩
      obtain ⟨unit, -, ofUnit⟩ := List.mem_flatMap.mp isStored
      refine ⟨?_, lt_of_mem_unitBytes ofUnit⟩
      rintro rfl
      exact zero_notMem_unitBytes unit ofUnit
    refine utf8EncodeChar_eq_unitBytes (fun zero => ?_) (Nat.lt_of_not_le fun outside => ?_)
    · obtain rfl : c = Char.ofNat 0 := by rw [← zero, Char.ofNat_toNat]
      exact (@isByte 0 (by decide)).1 rfl
    · obtain ⟨byte, isIn, large⟩ := exists_mem_utf8EncodeChar outside
      exact Nat.not_lt.mpr large (isByte isIn).2
  have same : (Text.units text).flatMap unitBytes = units.flatMap unitBytes := by
    rw [← bytes, Text.units, List.flatMap_assoc]
    exact List.flatMap_congr fun c member => (stored c member).symm
  have back := congrArg unitsOfBytes same
  rwa [unitsOfBytes_flatMap_unitBytes, unitsOfBytes_flatMap_unitBytes] at back

/-- A stored text reads as that text. -/
theorem PoolString.text_ofText (text : String) : (ofText text).text = text := by
  rw [PoolString.text]
  split
  · next read isText =>
    exact units_injective (units_of_utf8? isText)
  · rw [PoolString.units, ofText, unitsOfBytes_flatMap_unitBytes, Text.units,
      charsOfUnits_flatMap_charUnits, String.ofList_toList]

end DexPatch
