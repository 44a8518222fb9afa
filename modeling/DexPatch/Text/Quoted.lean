import DexPatch.Text.Glyph
import DexPatch.Text.Numeral

namespace DexPatch.Text

/-!
# Quoted text in messages

A text inside a message stands between double quotes.  The quote, the
backslash and the common controls are written as two characters, whatever
shows nothing by itself as its code point, and the rest as it is.
-/

/-- One character between the quotes. -/
def escaped (c : Char) : List Char :=
  match c with
  | '\x00' => ['\\', '0']
  | '\t' => ['\\', 't']
  | '\n' => ['\\', 'n']
  | '\r' => ['\\', 'r']
  | '"' => ['\\', '"']
  | '\\' => ['\\', '\\']
  | c =>
    if hasGlyph c then
      [c]
    else
      ['\\', 'u', '\x7b'] ++ hexDigits c.toNat ++ ['\x7d']

/-- A text as a message shows it. -/
def quoted (text : String) : String :=
  String.ofList ('"' :: text.toList.flatMap escaped ++ ['"'])

end DexPatch.Text
