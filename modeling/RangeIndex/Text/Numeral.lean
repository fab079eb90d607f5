/-!
# Decimal numerals of 32 bits

A numeral is an optional plus sign and one or more decimal digits. `readNumeral?` accepts those
whose value fits in 32 bits, `writeNumeral` writes the shortest one.
-/

namespace RangeIndex.Text

/-- The digits of a numeral: all of it but one leading plus sign. -/
def numeralDigits : List Char → List Char
  | '+' :: digits => digits
  | digits => digits

/-- Reads a numeral below `2 ^ 32`. -/
def readNumeral? (s : String) : Option UInt32 :=
  let digits := numeralDigits s.toList
  if !digits.isEmpty && digits.all Char.isDigit then
    let value := Nat.ofDigitChars 10 digits 0
    if value < UInt32.size then some (UInt32.ofNat value) else none
  else
    none

/-- Writes a number without sign and leading zeros. -/
def writeNumeral (n : UInt32) : String :=
  String.ofList (Nat.toDigits 10 n.toNat)

end RangeIndex.Text
