import DexPatch.Text.Utf16

namespace DexPatch.Json

/-!
# JSON values

Texts in JSON are sequences of UTF-16 code units: an escape can name any unit,
and whether all of them together are a text shows only at the end.  A number
is kept as it is written.
-/

inductive Value where
  | null
  | boolean (value : Bool)
  | number (numeral : List Char)
  | string (units : List UInt16)
  | array (items : List Value)
  | object (members : List (List UInt16 × Value))
deriving Repr, Inhabited

/-- The text of code units, if they form one: surrogates have to stand in pairs. -/
def textOfUnits? (units : List UInt16) : Option String :=
  let text := String.ofList (Text.charsOfUnits units)
  if Text.units text = units then some text else none

namespace Value

/-- The value that holds a text. -/
def ofText (text : String) : Value := .string (Text.units text)

/-- The text of a value that is one. -/
def text? : Value → Option String
  | .string units => textOfUnits? units
  | _ => none

/-- The items of a value that is an array. -/
def items? : Value → Option (List Value)
  | .array items => some items
  | _ => none

/-- An object with members whose names are texts. -/
def record (members : List (String × Value)) : Value :=
  .object (members.map fun (name, value) => (Text.units name, value))

/-- The only value with a name, if any has it; there must not be two. -/
def memberNamed? (members : List (String × Value)) (name : String) : Option (Option Value) :=
  match members.filter (·.1 == name) with
  | [] => some none
  | [(_, value)] => some (some value)
  | _ => none

/-- The values of the fields of a record with the given field names.  An object gives each field
at most once, under its name, and may have other members; an array gives all fields in their
order and nothing else. -/
def fields? (names : List String) : Value → Option (List (Option Value))
  | .array items => if items.length = names.length then some (items.map some) else none
  | .object members => do
    let members ← members.mapM fun (key, value) => (textOfUnits? key).map fun name => (name, value)
    names.mapM (memberNamed? members)
  | _ => none

end Value

end DexPatch.Json
