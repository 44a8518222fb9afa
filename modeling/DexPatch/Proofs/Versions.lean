import Mathlib
import DexPatch.Image.Reader
import DexPatch.Proofs.Ascii

namespace DexPatch

/-!
# The versions that can be read

A version is read as text and then as a numeral, and a numeral may have a plus
sign.  So besides the documented versions those are read that have the sign in
place of the leading zero, and no others: bytes that are not all ASCII never
make a numeral.
-/

namespace Text

/-- What the second byte of a character may be keeps clear of short forms and surrogates. -/
theorem bounds_of_allowsSecond
    {first second : UInt8}
    (allowed : allowsSecond first second = true) :
    low6 second + 0x80 = second.toNat ∧
      (first.toNat = 0xe0 → 0xa0 ≤ second.toNat) ∧
      (first.toNat = 0xed → second.toNat < 0xa0) ∧
      (first.toNat = 0xf0 → 0x90 ≤ second.toNat) ∧
      (first.toNat = 0xf4 → second.toNat < 0x90) := by
  simp only [allowsSecond, isContinuation, Bool.and_eq_true, decide_eq_true_eq] at allowed
  rw [low6]
  grind

theorem low6_lt (byte : UInt8) : low6 byte < 64 := Nat.mod_lt _ (by decide)

/-- The character of a value that needs several bytes is not ASCII. -/
theorem not_ascii_ofNat
    {n : Nat}
    (valid : n.isValidChar)
    (large : 0x80 ≤ n) :
    ¬ (Char.ofNat n).toNat < 0x80 := by
  rw [Char.toNat_ofNat, if_pos valid]
  omega

/-- A byte that is not ASCII starts no ASCII character. -/
theorem not_ascii_lossyHead
    {first : UInt8}
    (large : ¬ first.toNat < 0x80)
    (rest : List UInt8) :
    ¬ (lossyHead first rest).1.toNat < 0x80 := by
  rw [lossyHead.eq_def]
  dsimp only
  rw [if_neg large]
  split
  · next isTwo =>
    simp only [Bool.and_eq_true, decide_eq_true_eq] at isTwo
    split
    · next b _ =>
      have small := low6_lt b
      split
      · exact not_ascii_ofNat (by simp only [Nat.isValidChar]; omega) (by omega)
      · exact not_ascii_replacement
    · exact not_ascii_replacement
  · split
    · next isThree =>
      simp only [Bool.and_eq_true, decide_eq_true_eq] at isThree
      split
      · next b c _ =>
        have small := low6_lt c
        split
        · exact not_ascii_replacement
        · next allowed =>
          obtain ⟨second, short, surrogate, -, -⟩ :=
            bounds_of_allowsSecond (by simpa using allowed)
          have bound := low6_lt b
          split
          · exact not_ascii_replacement
          · exact not_ascii_ofNat (by simp only [Nat.isValidChar]; omega) (by omega)
      · exact not_ascii_replacement
      · exact not_ascii_replacement
    · split
      · next isFour =>
        simp only [Bool.and_eq_true, decide_eq_true_eq] at isFour
        split
        · next b c d _ =>
          have third := low6_lt c
          have fourth := low6_lt d
          split
          · exact not_ascii_replacement
          · next allowed =>
            obtain ⟨second, -, -, short, beyond⟩ :=
              bounds_of_allowsSecond (by simpa using allowed)
            have bound := low6_lt b
            split
            · exact not_ascii_replacement
            · split
              · exact not_ascii_replacement
              · exact not_ascii_ofNat (by simp only [Nat.isValidChar]; omega) (by omega)
        · exact not_ascii_replacement
        · exact not_ascii_replacement
        · exact not_ascii_replacement
      · exact not_ascii_replacement

/-- Only ASCII bytes read as ASCII characters. -/
theorem lt_of_isAscii_lossyChars
    {bytes : List UInt8}
    (ascii : IsAscii (lossyChars bytes)) :
    ∀ byte ∈ bytes, byte.toNat < 0x80 := by
  fun_induction lossyChars bytes with
  | case1 =>
      exact fun _ member => absurd member List.not_mem_nil
  | case2 first rest char length head inductionHypothesis =>
      obtain ⟨small, later⟩ := List.forall_mem_cons.mp ascii
      have lead : first.toNat < 0x80 := by
        by_contra large
        exact not_ascii_lossyHead large rest (head ▸ small)
      have single : length = 1 := by
        rw [lossyHead.eq_def] at head
        dsimp only at head
        rw [if_pos lead] at head
        exact (congrArg Prod.snd head).symm
      subst single
      exact List.forall_mem_cons.mpr ⟨lead, inductionHypothesis later⟩

/-- ASCII bytes read as the characters of their values. -/
theorem lossyChars_of_lt
    {bytes : List UInt8}
    (small : ∀ byte ∈ bytes, byte.toNat < 0x80) :
    lossyChars bytes = bytes.map fun byte => Char.ofNat byte.toNat := by
  induction bytes with
  | nil =>
      rw [lossyChars]
      rfl
  | cons first rest inductionHypothesis =>
      obtain ⟨lead, later⟩ := List.forall_mem_cons.mp small
      have head : lossyHead first rest = (Char.ofNat first.toNat, 1) := by
        rw [lossyHead.eq_def]
        exact if_pos lead
      rw [lossyChars, head, List.map_cons, ← inductionHypothesis later]
      rfl

end Text

open Text

/-! ## Numerals -/

/-- The value of an ASCII byte read as a character. -/
theorem toNat_ofNat_of_lt
    {byte : UInt8}
    (small : byte.toNat < 0x80) :
    (Char.ofNat byte.toNat).toNat = byte.toNat := by
  rw [Char.toNat_ofNat, if_pos (by simp only [Nat.isValidChar]; omega)]

theorem isDigit_iff (c : Char) : c.isDigit = true ↔ 0x30 ≤ c.toNat ∧ c.toNat ≤ 0x39 := by
  rw [Char.isDigit, Bool.and_eq_true, decide_eq_true_eq, decide_eq_true_eq, ge_iff_le,
    UInt32.le_iff_toNat_le, UInt32.le_iff_toNat_le]
  rfl

theorem isAscii_of_isDigit
    {chars : List Char}
    (digits : chars.all Char.isDigit = true) :
    IsAscii chars := by
  intro c member
  have bounds := (isDigit_iff c).mp (List.all_eq_true.mp digits c member)
  omega

/-- The characters of a numeral are ASCII. -/
theorem isAscii_of_decimal?
    {chars : List Char}
    {n : Nat}
    (numeral : decimal? chars = some n) :
    IsAscii chars := by
  unfold decimal? at numeral
  split at numeral
  · next rest =>
    dsimp only at numeral
    split at numeral
    · cases numeral
    · split at numeral
      · next digits =>
        exact List.forall_mem_cons.mpr ⟨by decide, isAscii_of_isDigit digits⟩
      · cases numeral
  · dsimp only at numeral
    split at numeral
    · cases numeral
    · split at numeral
      · next digits => exact isAscii_of_isDigit digits
      · cases numeral

/-! ## Versions -/

namespace Version

/-- The versions 35 to 40 behind a first byte. -/
def numbered (first : UInt8) : List Version :=
  [{ first, second := 0x33, third := 0x35 }, { first, second := 0x33, third := 0x36 },
    { first, second := 0x33, third := 0x37 }, { first, second := 0x33, third := 0x38 },
    { first, second := 0x33, third := 0x39 }, { first, second := 0x34, third := 0x30 }]

/-- The versions that the format has: 035, 036, 037, 038, 039 and 040. -/
def documented : List Version := numbered 0x30

/-- The same numbers with a plus sign: +35, +36, +37, +38, +39 and +40. -/
def signed : List Version := numbered 0x2b

/-- The versions that can be read. -/
def accepted : List Version := documented ++ signed

theorem mem_numbered_iff {version : Version} {first : UInt8} :
    version ∈ numbered first ↔
      version.first = first ∧
        ((version.second.toNat = 0x33 ∧ 0x35 ≤ version.third.toNat ∧
            version.third.toNat ≤ 0x39) ∨
          (version.second.toNat = 0x34 ∧ version.third.toNat = 0x30)) := by
  obtain ⟨one, two, three⟩ := version
  simp only [numbered, List.mem_cons, List.not_mem_nil, or_false, Version.mk.injEq,
    ← UInt8.toNat_inj, UInt8.reduceToNat]
  omega

/-- Three characters are a numeral of two digits with a plus sign or one of three digits. -/
theorem decimal?_three
    {a b c : Char}
    {n : Nat}
    (numeral : decimal? [a, b, c] = some n) :
    (0x30 ≤ b.toNat ∧ b.toNat ≤ 0x39) ∧ (0x30 ≤ c.toNat ∧ c.toNat ≤ 0x39) ∧
      ((a.toNat = 0x2b ∧ n = (b.toNat - 0x30) * 10 + (c.toNat - 0x30)) ∨
        ((0x30 ≤ a.toNat ∧ a.toNat ≤ 0x39) ∧
          n = ((a.toNat - 0x30) * 10 + (b.toNat - 0x30)) * 10 + (c.toNat - 0x30))) := by
  have zero : '0'.toNat = 0x30 := rfl
  unfold decimal? at numeral
  split at numeral
  · next rest shape =>
    obtain ⟨rfl, rfl⟩ := List.cons.inj shape
    have sign : '+'.toNat = 0x2b := rfl
    simp only [List.isEmpty_cons, Bool.false_eq_true, if_false, List.all_cons, List.all_nil,
      Bool.and_true, Bool.and_eq_true, isDigit_iff, List.foldl_cons, List.foldl_nil, zero,
      Option.ite_none_right_eq_some, Option.some.injEq] at numeral
    omega
  · simp only [List.isEmpty_cons, Bool.false_eq_true, if_false, List.all_cons, List.all_nil,
      Bool.and_true, Bool.and_eq_true, isDigit_iff, List.foldl_cons, List.foldl_nil, zero,
      Option.ite_none_right_eq_some, Option.some.injEq] at numeral
    omega

theorem isSupported_of_mem :
    ∀ version ∈ accepted, version.isSupported = true := by
  decide +kernel

/-- A version can be read exactly if it is one of the format's or one of these with a sign. -/
theorem isSupported_iff {version : Version} :
    version.isSupported = true ↔ version ∈ accepted := by
  refine ⟨fun supported => ?_, isSupported_of_mem version⟩
  have chars : version.text.toList = lossyChars version.bytes := String.toList_ofList
  rw [isSupported, chars] at supported
  split at supported
  · next n numeral =>
    have small := lt_of_isAscii_lossyChars (isAscii_of_decimal? numeral)
    rw [lossyChars_of_lt small] at numeral
    simp only [bytes, List.forall_mem_cons] at small
    have digits := decimal?_three numeral
    rw [toNat_ofNat_of_lt small.1, toNat_ofNat_of_lt small.2.1, toNat_ofNat_of_lt small.2.2.1]
      at digits
    simp only [Bool.and_eq_true, decide_eq_true_eq] at supported
    rw [accepted, List.mem_append, documented, signed, mem_numbered_iff, mem_numbered_iff,
      ← UInt8.toNat_inj, ← UInt8.toNat_inj]
    simp only [UInt8.reduceToNat]
    omega
  · cases supported

end Version

end DexPatch
