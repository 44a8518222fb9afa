namespace DexPatch.Archive

/-!
# Names in code page 437

An entry whose name is not marked as UTF-8 has it in the code page of the
first archives.  The lower half is ASCII.
-/

/-- The upper half of the code page. -/
def upperHalf : Array Char :=
  ("ÇüéâäàåçêëèïîìÄÅ" ++
    "ÉæÆôöòûùÿÖÜ¢£¥₧ƒ" ++
    "áíóúñÑªº¿⌐¬½¼¡«»" ++
    "░▒▓│┤╡╢╖╕╣║╗╝╜╛┐" ++
    "└┴┬├─┼╞╟╚╔╩╦╠═╬╧" ++
    "╨╤╥╙╘╒╓╫╪┘┌█▄▌▐▀" ++
    "αßΓπΣσµτΦΘΩδ∞φε∩" ++
    "≡±≥≤⌠⌡÷≈°∙·√ⁿ²■\u00a0").toList.toArray

/-- The character of a byte. -/
def codePageChar (byte : UInt8) : Char :=
  if byte.toNat < 0x80 then Char.ofNat byte.toNat
  else upperHalf[byte.toNat - 0x80]?.getD (Char.ofNat byte.toNat)

/-- The text of bytes in the code page. -/
def codePageText (bytes : List UInt8) : String := String.ofList (bytes.map codePageChar)

end DexPatch.Archive
