import DexPatch.Text.Utf16

namespace DexPatch.Text

/-!
# Reading bytes as UTF-8

Well-formed bytes read as the text they encode.  `lossy` reads any bytes: each
longest start of a character that goes no further, and each byte that starts
none, becomes one replacement character.
-/

/-- The text of well-formed bytes. -/
def utf8? (bytes : List UInt8) : Option String := String.fromUTF8? ⟨bytes.toArray⟩

/-- A byte that may stand inside a character. -/
def isContinuation (byte : UInt8) : Bool := 0x80 ≤ byte.toNat && byte.toNat < 0xc0

/-- May `second` follow `first` in a character of three or four bytes? -/
def allowsSecond (first second : UInt8) : Bool :=
  isContinuation second &&
    (if first.toNat = 0xe0 then decide (0xa0 ≤ second.toNat)
    else if first.toNat = 0xed then decide (second.toNat < 0xa0)
    else if first.toNat = 0xf0 then decide (0x90 ≤ second.toNat)
    else if first.toNat = 0xf4 then decide (second.toNat < 0x90)
    else true)

/-- The payload of a continuation byte. -/
def low6 (byte : UInt8) : Nat := byte.toNat % 64

/-- The first character of a byte sequence and the number of bytes it takes. -/
def lossyHead (first : UInt8) (rest : List UInt8) : Char × Nat :=
  let lead := first.toNat
  if lead < 0x80 then
    (Char.ofNat lead, 1)
  else if 0xc2 ≤ lead && lead < 0xe0 then
    match rest with
    | b :: _ =>
      if isContinuation b then (Char.ofNat (lead % 32 * 64 + low6 b), 2) else (replacement, 1)
    | [] => (replacement, 1)
  else if 0xe0 ≤ lead && lead < 0xf0 then
    match rest with
    | b :: c :: _ =>
      if !allowsSecond first b then (replacement, 1)
      else if !isContinuation c then (replacement, 2)
      else (Char.ofNat (lead % 16 * 4096 + low6 b * 64 + low6 c), 3)
    | [b] => (replacement, if allowsSecond first b then 2 else 1)
    | [] => (replacement, 1)
  else if 0xf0 ≤ lead && lead < 0xf5 then
    match rest with
    | b :: c :: d :: _ =>
      if !allowsSecond first b then (replacement, 1)
      else if !isContinuation c then (replacement, 2)
      else if !isContinuation d then (replacement, 3)
      else (Char.ofNat (lead % 8 * 262144 + low6 b * 4096 + low6 c * 64 + low6 d), 4)
    | [b, c] =>
      (replacement, if !allowsSecond first b then 1 else if isContinuation c then 3 else 2)
    | [b] => (replacement, if allowsSecond first b then 2 else 1)
    | [] => (replacement, 1)
  else
    (replacement, 1)

/-- The characters of any bytes; each step drops at least the byte it starts at. -/
def lossyChars : List UInt8 → List Char
  | [] => []
  | first :: rest =>
    let (char, length) := lossyHead first rest
    char :: lossyChars (rest.drop (length - 1))
termination_by bytes => bytes.length
decreasing_by simp only [List.length_drop, List.length_cons]; omega

/-- The text of any bytes. -/
def lossy (bytes : List UInt8) : String := String.ofList (lossyChars bytes)

end DexPatch.Text
