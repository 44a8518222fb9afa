import DexPatch.Json.Value

namespace DexPatch.Json

/-!
# Reading JSON

Every reader takes the text from some place on and gives what it has read and
the rest of the text.  The reader of values recurs on a bound, which the size
of the text meets: so many characters open no more arrays and objects, nor do
they hold more parts.
-/

/-- What may stand between the parts of a value. -/
def isBlank (c : Char) : Bool := c == ' ' || c == '\n' || c == '\t' || c == '\x0d'

/-- The text from its first character on that is not blank. -/
def skipBlank (text : List Char) : List Char := text.dropWhile isBlank

/-- The value of a hexadecimal digit of either case. -/
def hexValue? (c : Char) : Option Nat :=
  if '0' ≤ c ∧ c ≤ '9' then some (c.toNat - '0'.toNat)
  else if 'a' ≤ c ∧ c ≤ 'f' then some (c.toNat - 'a'.toNat + 10)
  else if 'A' ≤ c ∧ c ≤ 'F' then some (c.toNat - 'A'.toNat + 10)
  else none

/-- The code unit that four hexadecimal digits name. -/
def unitOfHex? (a b c d : Char) : Option UInt16 := do
  let a ← hexValue? a
  let b ← hexValue? b
  let c ← hexValue? c
  let d ← hexValue? d
  return UInt16.ofNat (((a * 16 + b) * 16 + c) * 16 + d)

/-- The code unit of a one-letter escape. -/
def escapeUnit? : Char → Option UInt16
  | '"' => some 0x22
  | '\\' => some 0x5c
  | '/' => some 0x2f
  | 'b' => some 0x08
  | 'f' => some 0x0c
  | 'n' => some 0x0a
  | 'r' => some 0x0d
  | 't' => some 0x09
  | _ => none

/-- The code units of a string from behind its opening quote, and what follows its closing one. -/
def stringBody : List Char → Option (List UInt16 × List Char)
  | [] => none
  | '"' :: rest => some ([], rest)
  | ['\\'] => none
  | '\\' :: 'u' :: a :: b :: c :: d :: rest => do
    let unit ← unitOfHex? a b c d
    let (units, rest) ← stringBody rest
    return (unit :: units, rest)
  | '\\' :: c :: rest => do
    let unit ← escapeUnit? c
    let (units, rest) ← stringBody rest
    return (unit :: units, rest)
  | c :: rest =>
    if c.toNat < 0x20 then
      none
    else do
      let (units, rest) ← stringBody rest
      return (Text.charUnits c ++ units, rest)

/-- One digit or more. -/
def digits? (text : List Char) : Option (List Char × List Char) :=
  let (digits, rest) := text.span Char.isDigit
  if digits.isEmpty then none else some (digits, rest)

/-- The part of a numeral in front of the point: a zero leads no other digit. -/
def whole? (text : List Char) : Option (List Char × List Char) :=
  match text with
  | '0' :: rest => some (['0'], rest)
  | text => digits? text

/-- The part of a numeral from the point on, if there is one. -/
def fraction? (text : List Char) : Option (List Char × List Char) :=
  match text with
  | '.' :: rest => (digits? rest).map fun (digits, rest) => ('.' :: digits, rest)
  | text => some ([], text)

/-- The sign of an exponent, if there is one. -/
def exponentSign (text : List Char) : List Char × List Char :=
  match text with
  | '+' :: rest => (['+'], rest)
  | '-' :: rest => (['-'], rest)
  | text => ([], text)

/-- The exponent of a numeral, if there is one. -/
def exponent? (text : List Char) : Option (List Char × List Char) :=
  match text with
  | [] => some ([], [])
  | c :: rest =>
    if c = 'e' ∨ c = 'E' then do
      let (sign, rest) := exponentSign rest
      let (digits, rest) ← digits? rest
      return (c :: sign ++ digits, rest)
    else
      some ([], c :: rest)

/-- A numeral without its sign. -/
def magnitude? (text : List Char) : Option (List Char × List Char) := do
  let (whole, rest) ← whole? text
  let (fraction, rest) ← fraction? rest
  let (exponent, rest) ← exponent? rest
  return (whole ++ fraction ++ exponent, rest)

/-- A numeral. -/
def numeral? (text : List Char) : Option (List Char × List Char) :=
  match text with
  | '-' :: rest => (magnitude? rest).map fun (numeral, rest) => ('-' :: numeral, rest)
  | text => magnitude? text

/-- A value that holds no other values, from its first character on. -/
def scalar? (text : List Char) : Option (Value × List Char) :=
  match text with
  | 'n' :: 'u' :: 'l' :: 'l' :: rest => some (.null, rest)
  | 't' :: 'r' :: 'u' :: 'e' :: rest => some (.boolean true, rest)
  | 'f' :: 'a' :: 'l' :: 's' :: 'e' :: rest => some (.boolean false, rest)
  | '"' :: rest => (stringBody rest).map fun (units, rest) => (.string units, rest)
  | text => (numeral? text).map fun (numeral, rest) => (.number numeral, rest)

/-- One part or more, with commas between them, up to a closing character; at most `bound`. -/
def separated {α : Type} (part : List Char → Option (α × List Char)) (close : Char) :
    (bound : Nat) → List Char → Option (List α × List Char)
  | 0, _ => none
  | bound + 1, text => do
    let (first, rest) ← part text
    match skipBlank rest with
    | [] => none
    | c :: rest =>
      if c = close then
        return ([first], rest)
      else if c = ',' then
        let (more, rest) ← separated part close bound rest
        return (first :: more, rest)
      else
        none

/-- Parts up to a closing character, none or with commas between them; at most `bound`. -/
def enclosed {α : Type} (part : List Char → Option (α × List Char)) (close : Char)
    (bound : Nat) (text : List Char) : Option (List α × List Char) :=
  match skipBlank text with
  | [] => none
  | c :: rest => if c = close then some ([], rest) else separated part close bound (c :: rest)

/-- A member of an object. -/
def member? (value : List Char → Option (Value × List Char)) (text : List Char) :
    Option ((List UInt16 × Value) × List Char) :=
  match skipBlank text with
  | '"' :: rest => do
    let (key, rest) ← stringBody rest
    match skipBlank rest with
    | ':' :: rest =>
      let (value, rest) ← value rest
      return ((key, value), rest)
    | _ => none
  | _ => none

/-- A value with blanks before it, in a text of at most `bound` characters. -/
def value? : (bound : Nat) → List Char → Option (Value × List Char)
  | 0, text => scalar? (skipBlank text)
  | bound + 1, text =>
    match skipBlank text with
    | '[' :: rest =>
      (enclosed (value? bound) ']' bound rest).map fun (items, rest) => (.array items, rest)
    | '{' :: rest =>
      (enclosed (member? (value? bound)) '}' bound rest).map fun (members, rest) =>
        (.object members, rest)
    | rest => scalar? rest

/-- The value that a text is, with nothing but blanks around it. -/
def parse? (text : String) : Option Value :=
  match value? text.length text.toList with
  | none => none
  | some (value, rest) => if (skipBlank rest).isEmpty then some value else none

end DexPatch.Json
