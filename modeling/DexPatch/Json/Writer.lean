import DexPatch.Json.Value
import DexPatch.Text.Numeral

namespace DexPatch.Json

/-!
# Writing JSON

Values are written without any blanks, members in their order.  In texts only
the quote, the backslash and the controls are escaped, by a letter where
there is one.
-/

/-- A character inside a written text. -/
def escapedChar (c : Char) : List Char :=
  match c with
  | '"' => ['\\', '"']
  | '\\' => ['\\', '\\']
  | '\x08' => ['\\', 'b']
  | '\x0c' => ['\\', 'f']
  | '\n' => ['\\', 'n']
  | '\x0d' => ['\\', 'r']
  | '\t' => ['\\', 't']
  | c => if c.toNat < 0x20 then ['\\', 'u'] ++ (Text.hexPadded 4 c.toNat).toList else [c]

/-- A written text. -/
def writtenString (units : List UInt16) : List Char :=
  '"' :: (Text.charsOfUnits units).flatMap escapedChar ++ ['"']

mutual

/-- A written value. -/
def Value.written : Value → List Char
  | .null => ['n', 'u', 'l', 'l']
  | .boolean true => ['t', 'r', 'u', 'e']
  | .boolean false => ['f', 'a', 'l', 's', 'e']
  | .number numeral => numeral
  | .string units => writtenString units
  | .array items => '[' :: Value.writtenItems items ++ [']']
  | .object members => '{' :: Value.writtenMembers members ++ ['}']

/-- Written values with commas between them. -/
def Value.writtenItems : List Value → List Char
  | [] => []
  | [item] => item.written
  | item :: next :: rest => item.written ++ ',' :: Value.writtenItems (next :: rest)

/-- Written members with commas between them. -/
def Value.writtenMembers : List (List UInt16 × Value) → List Char
  | [] => []
  | [(key, value)] => writtenString key ++ ':' :: value.written
  | (key, value) :: next :: rest =>
    writtenString key ++ ':' :: value.written ++ ',' :: Value.writtenMembers (next :: rest)

end

/-- The text of a value. -/
def Value.render (value : Value) : String := String.ofList value.written

end DexPatch.Json
