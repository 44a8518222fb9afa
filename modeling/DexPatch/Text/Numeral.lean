namespace DexPatch.Text

/-!
# Numerals

Decimal numerals come from `toString`.  Hexadecimal numerals are lower case;
a padded one has leading zeros up to a given number of digits.
-/

/-- The hexadecimal digits of a number, at least one, lower case. -/
def hexDigits (n : Nat) : List Char := Nat.toDigits 16 n

/-- A hexadecimal numeral of at least `width` digits. -/
def hexPadded (width n : Nat) : String :=
  String.ofList (List.replicate (width - (hexDigits n).length) '0' ++ hexDigits n)

/-- A hexadecimal numeral behind `0x`. -/
def hexLiteral (n : Nat) : String := "0x" ++ hexPadded 1 n

end DexPatch.Text
