import DexPatch.Archive.Extra
import DexPatch.Proofs.Ascii

namespace DexPatch

/-!
# Names of entries are read from their bytes

Bytes that are not marked as UTF-8 are in a code page whose lower half is
ASCII, so a name has to be marked unless it is ASCII.  Reading UTF-8 takes one
character after the other, whatever stands behind it.
-/

namespace Text

/-! ## Characters of one to four bytes -/

variable {first second third fourth : UInt8}

theorem lossyHead_one (ascii : first.toNat < 0x80) (rest : List UInt8) :
    lossyHead first rest = (Char.ofNat first.toNat, 1) := by
  rw [lossyHead.eq_def]
  exact if_pos ascii

theorem lossyHead_two
    (lead : 0xc2 ≤ first.toNat ∧ first.toNat < 0xe0)
    (isSecond : isContinuation second = true)
    (rest : List UInt8) :
    lossyHead first (second :: rest) =
      (Char.ofNat (first.toNat % 32 * 64 + low6 second), 2) := by
  rw [lossyHead.eq_def]
  dsimp only
  rw [if_neg (by omega), if_pos (by simpa using lead), if_pos isSecond]

theorem lossyHead_three
    (lead : 0xe0 ≤ first.toNat ∧ first.toNat < 0xf0)
    (allowed : allowsSecond first second = true)
    (isThird : isContinuation third = true)
    (rest : List UInt8) :
    lossyHead first (second :: third :: rest) =
      (Char.ofNat (first.toNat % 16 * 4096 + low6 second * 64 + low6 third), 3) := by
  have notTwo : ¬ (0xc2 ≤ first.toNat && first.toNat < 0xe0) = true := by
    simp only [Bool.and_eq_true, decide_eq_true_eq]
    omega
  rw [lossyHead.eq_def]
  dsimp only
  rw [if_neg (by omega), if_neg notTwo, if_pos (by simpa using lead), if_neg (by simp [allowed]),
    if_neg (by simp [isThird])]

theorem lossyHead_four
    (lead : 0xf0 ≤ first.toNat ∧ first.toNat < 0xf5)
    (allowed : allowsSecond first second = true)
    (isThird : isContinuation third = true)
    (isFourth : isContinuation fourth = true)
    (rest : List UInt8) :
    lossyHead first (second :: third :: fourth :: rest) =
      (Char.ofNat (first.toNat % 8 * 262144 + low6 second * 4096 + low6 third * 64 + low6 fourth),
        4) := by
  have notTwo : ¬ (0xc2 ≤ first.toNat && first.toNat < 0xe0) = true := by
    simp only [Bool.and_eq_true, decide_eq_true_eq]
    omega
  have notThree : ¬ (0xe0 ≤ first.toNat && first.toNat < 0xf0) = true := by
    simp only [Bool.and_eq_true, decide_eq_true_eq]
    omega
  rw [lossyHead.eq_def]
  dsimp only
  rw [if_neg (by omega), if_neg notTwo, if_neg notThree, if_pos (by simpa using lead),
    if_neg (by simp [allowed]), if_neg (by simp [isThird]), if_neg (by simp [isFourth])]

/-- A byte that stands inside a character has six digits of its value. -/
theorem isContinuation_and_low6 (n : Nat) :
    isContinuation (UInt8.ofNat (n % 64 + 128)) = true ∧
      low6 (UInt8.ofNat (n % 64 + 128)) = n % 64 := by
  have value : (UInt8.ofNat (n % 64 + 128)).toNat = n % 64 + 128 :=
    UInt8.toNat_ofNat_of_lt' (show _ < 256 by omega)
  rw [isContinuation, low6, value]
  simp only [Bool.and_eq_true, decide_eq_true_eq]
  omega

/-! ## Texts -/

/-- The bytes of a character are read as that character, whatever follows them. -/
theorem lossyChars_utf8EncodeChar_append (c : Char) (rest : List UInt8) :
    lossyChars (String.utf8EncodeChar c ++ rest) = c :: lossyChars rest := by
  have valid : c.toNat < 0xd800 ∨ 0xdfff < c.toNat ∧ c.toNat < 0x110000 := c.valid
  have value (n : Nat) (fits : n < 256) : (UInt8.ofNat n).toNat = n :=
    UInt8.toNat_ofNat_of_lt' fits
  obtain ⟨isLast, last⟩ := isContinuation_and_low6 c.toNat
  obtain ⟨isMiddle, middle⟩ := isContinuation_and_low6 (c.toNat / 64)
  rw [utf8EncodeChar_eq]
  by_cases one : c.toNat ≤ 127
  · have lead := value c.toNat (by omega)
    rw [if_pos one, List.singleton_append, lossyChars, lossyHead_one (by omega), lead,
      Char.ofNat_toNat]
    rfl
  rw [if_neg one]
  by_cases two : c.toNat ≤ 2047
  · have lead := value (c.toNat / 64 % 32 + 192) (by omega)
    have whole : (c.toNat / 64 % 32 + 192) % 32 * 64 + c.toNat % 64 = c.toNat := by omega
    rw [if_pos two, List.cons_append, lossyChars, List.singleton_append,
      lossyHead_two (by omega) isLast, lead, last, whole, Char.ofNat_toNat]
    rfl
  rw [if_neg two]
  by_cases three : c.toNat ≤ 65535
  · have lead := value (c.toNat / 4096 % 16 + 224) (by omega)
    have second := value (c.toNat / 64 % 64 + 128) (by omega)
    have allowed :
        allowsSecond (UInt8.ofNat (c.toNat / 4096 % 16 + 224))
          (UInt8.ofNat (c.toNat / 64 % 64 + 128)) = true := by
      rw [allowsSecond, isMiddle, lead, second]
      grind
    have whole :
        (c.toNat / 4096 % 16 + 224) % 16 * 4096 + c.toNat / 64 % 64 * 64 + c.toNat % 64 =
          c.toNat := by
      omega
    rw [if_pos three, List.cons_append, lossyChars, List.cons_append, List.singleton_append,
      lossyHead_three (by omega) allowed isLast, lead, middle, last, whole, Char.ofNat_toNat]
    rfl
  · obtain ⟨isSecond, early⟩ := isContinuation_and_low6 (c.toNat / 4096)
    have lead := value (c.toNat / 262144 % 8 + 240) (by omega)
    have second := value (c.toNat / 4096 % 64 + 128) (by omega)
    have allowed :
        allowsSecond (UInt8.ofNat (c.toNat / 262144 % 8 + 240))
          (UInt8.ofNat (c.toNat / 4096 % 64 + 128)) = true := by
      rw [allowsSecond, isSecond, lead, second]
      grind
    have whole :
        (c.toNat / 262144 % 8 + 240) % 8 * 262144 + c.toNat / 4096 % 64 * 4096 +
            c.toNat / 64 % 64 * 64 + c.toNat % 64 =
          c.toNat := by
      omega
    rw [if_neg three, List.cons_append, lossyChars, List.cons_append, List.cons_append,
      List.singleton_append, lossyHead_four (by omega) allowed isMiddle isLast, lead, early,
      middle, last, whole, Char.ofNat_toNat]
    rfl

/-- The bytes of characters are read as these characters. -/
theorem lossyChars_flatMap_utf8EncodeChar (chars : List Char) :
    lossyChars (chars.flatMap String.utf8EncodeChar) = chars := by
  induction chars with
  | nil =>
      rw [List.flatMap_nil, lossyChars]
  | cons c rest inductionHypothesis =>
      rw [List.flatMap_cons, lossyChars_utf8EncodeChar_append, inductionHypothesis]

end Text

namespace Archive

open Text

/-- The bytes of a text are those of its characters. -/
theorem textBytes_eq (text : String) :
    textBytes text = text.toList.flatMap String.utf8EncodeChar := by
  have data :=
    congrArg (fun bytes : ByteArray => bytes.data.toList) (String.utf8Encode_toList (b := text))
  rw [textBytes, String.toUTF8_eq_toByteArray, ← data]
  simp [List.utf8Encode]

/-- ASCII texts are read from their bytes in the code page. -/
theorem codePageText_textBytes
    {text : String}
    (ascii : IsAscii text.toList) :
    codePageText (textBytes text) = text := by
  have chars (list : List Char) (small : IsAscii list) :
      (list.flatMap String.utf8EncodeChar).map codePageChar = list := by
    induction list with
    | nil =>
        rfl
    | cons c rest inductionHypothesis =>
        obtain ⟨isSmall, others⟩ := List.forall_mem_cons.mp small
        obtain ⟨encoded, value⟩ := utf8EncodeChar_of_lt isSmall
        rw [List.flatMap_cons, encoded, List.singleton_append, List.map_cons,
          inductionHypothesis others, codePageChar, value, if_pos isSmall, Char.ofNat_toNat]
  rw [codePageText, textBytes_eq, chars _ ascii, String.ofList_toList]

/-- All texts are read from their bytes in UTF-8. -/
theorem lossy_textBytes (text : String) : lossy (textBytes text) = text := by
  rw [lossy, textBytes_eq, lossyChars_flatMap_utf8EncodeChar, String.ofList_toList]

/-- A text is read from its bytes if it is marked as UTF-8 or ASCII. -/
theorem decoded_textBytes
    {isUtf8 : Bool}
    {text : String}
    (readable : isUtf8 = true ∨ IsAscii text.toList) :
    decoded isUtf8 (textBytes text) = text := by
  rw [decoded]
  split
  · exact lossy_textBytes text
  · next unmarked =>
    exact codePageText_textBytes (readable.resolve_left unmarked)

end Archive

end DexPatch
