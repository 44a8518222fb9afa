namespace DexPatch.Text

/-!
# UTF-16 code units

A character of the basic plane is one unit and any other is a surrogate pair.
Units that pair up with nothing read as the replacement character.
-/

/-- What stands for anything that is no character. -/
def replacement : Char := '\ufffd'

/-- The one or two code units of a character. -/
def charUnits (c : Char) : List UInt16 :=
  if c.toNat < 0x10000 then
    [UInt16.ofNat c.toNat]
  else
    let above := c.toNat - 0x10000
    [UInt16.ofNat (0xd800 + above / 0x400), UInt16.ofNat (0xdc00 + above % 0x400)]

/-- The code units of a text. -/
def units (text : String) : List UInt16 := text.toList.flatMap charUnits

/-- Is the unit the first of a surrogate pair? -/
def isLeading (unit : UInt16) : Bool := 0xd800 ≤ unit.toNat && unit.toNat < 0xdc00

/-- Is the unit the second of a surrogate pair? -/
def isTrailing (unit : UInt16) : Bool := 0xdc00 ≤ unit.toNat && unit.toNat < 0xe000

/-- The character of a surrogate pair. -/
def pairChar (leading trailing : UInt16) : Char :=
  Char.ofNat (0x10000 + (leading.toNat - 0xd800) * 0x400 + (trailing.toNat - 0xdc00))

/-- The characters of a unit sequence; a surrogate without its partner is replaced. -/
def charsOfUnits : List UInt16 → List Char
  | [] => []
  | [unit] =>
    if isLeading unit || isTrailing unit then [replacement] else [Char.ofNat unit.toNat]
  | unit :: next :: rest =>
    if isLeading unit then
      if isTrailing next then
        pairChar unit next :: charsOfUnits rest
      else
        replacement :: charsOfUnits (next :: rest)
    else if isTrailing unit then
      replacement :: charsOfUnits (next :: rest)
    else
      Char.ofNat unit.toNat :: charsOfUnits (next :: rest)

end DexPatch.Text
