import RangeIndex.Toml.Scan

/-!
# TOML numbers, dates and times

Which unquoted words are integers, floats, dates and times. Digits may be grouped with single
underscores, and a decimal integer has no leading zeros.
-/

namespace RangeIndex.Toml

/-- Whether a word is digits of the given kind with single underscores between them. -/
def isDigitGroups (isDigit : Char → Bool) : List Char → Bool
  | [] => false
  | [c] => isDigit c
  | c :: '_' :: rest => isDigit c && isDigitGroups isDigit rest
  | c :: rest => isDigit c && isDigitGroups isDigit rest

/-- Whether a character is a hexadecimal digit. -/
def isHexDigit (c : Char) : Bool :=
  c.isDigit || ('a' ≤ c && c ≤ 'f') || ('A' ≤ c && c ≤ 'F')

/-- A word without the sign it may start with. -/
def dropSign : List Char → List Char
  | '+' :: rest => rest
  | '-' :: rest => rest
  | cs => cs

/-- Whether a word is a decimal integer without a sign. -/
def isDecimal (cs : List Char) : Bool :=
  isDigitGroups Char.isDigit cs && (cs.head? != some '0' || cs.length == 1)

/-- Whether a word is an integer. -/
def isInteger (cs : List Char) : Bool :=
  match cs with
  | '0' :: 'x' :: digits => isDigitGroups isHexDigit digits
  | '0' :: 'o' :: digits => isDigitGroups (fun c => '0' ≤ c && c ≤ '7') digits
  | '0' :: 'b' :: digits => isDigitGroups (fun c => c = '0' || c = '1') digits
  | cs => isDecimal (dropSign cs)

/-- Whether a character starts an exponent. -/
def isExponentMark (c : Char) : Bool :=
  c = 'e' || c = 'E'

/-- Whether a word is empty or an exponent. -/
def isExponent (cs : List Char) : Bool :=
  match cs with
  | [] => true
  | c :: rest => isExponentMark c && isDigitGroups Char.isDigit (dropSign rest)

/-- Whether a word is a float. -/
def isFloat (cs : List Char) : Bool :=
  let cs := dropSign cs
  let whole := cs.takeWhile fun c => c != '.' && !isExponentMark c
  match cs.dropWhile fun c => c != '.' && !isExponentMark c with
  | [] => cs = ['i', 'n', 'f'] || cs = ['n', 'a', 'n']
  | '.' :: rest =>
    isDecimal whole && isDigitGroups Char.isDigit (rest.takeWhile fun c => !isExponentMark c) &&
      isExponent (rest.dropWhile fun c => !isExponentMark c)
  | exponent => isDecimal whole && isExponent exponent

/-- Takes a number of so many digits. -/
def digits (count : Nat) : Scan Nat := fun cs =>
  let ds := cs.take count
  if ds.length = count && ds.all Char.isDigit then some (Nat.ofDigitChars 10 ds 0, cs.drop count)
  else none

/-- The number of days of a month. -/
def daysIn (year month : Nat) : Nat :=
  if month = 2 then
    if year % 4 = 0 && (year % 100 ≠ 0 || year % 400 = 0) then 29 else 28
  else if [4, 6, 9, 11].contains month then 30
  else 31

/-- Takes a date. -/
def date : Scan Unit := do
  let year ← digits 4
  Scan.char '-'
  let month ← digits 2
  Scan.char '-'
  let day ← digits 2
  Scan.require (1 ≤ month && month ≤ 12 && 1 ≤ day && day ≤ daysIn year month)

/-- Takes a time of day, of which the seconds may be missing. -/
def time : Scan Unit := do
  let hour ← digits 2
  Scan.char ':'
  let minute ← digits 2
  Scan.require (hour ≤ 23 && minute ≤ 59)
  let seconds : Scan Unit := do
    Scan.char ':'
    let second ← digits 2
    Scan.require (second ≤ 60)
    let fraction : Scan Unit := do
      Scan.char '.'
      Scan.require !(← Scan.takeWhile Char.isDigit).isEmpty
    let _ ← Scan.optional fraction
  let _ ← Scan.optional seconds

/-- Takes the offset of a time from universal time. -/
def offset : Scan Unit := do
  let c ← Scan.any
  if c = 'Z' || c = 'z' then
    return
  Scan.require (c = '+' || c = '-')
  let hour ← digits 2
  Scan.char ':'
  let minute ← digits 2
  Scan.require (hour ≤ 23 && minute ≤ 59)

/-- Takes the time after a date, with the offset it may have. -/
def timeOfDate : Scan Unit := do
  let separator ← Scan.any
  Scan.require (separator = 'T' || separator = 't' || separator = ' ')
  time
  let _ ← Scan.optional offset

/-- Takes a date, a time, or both. -/
def moment : Scan Unit := fun cs =>
  match date cs with
  | some ((), rest) => ((fun _ => ()) <$> Scan.optional timeOfDate : Scan Unit) rest
  | none => time cs

end RangeIndex.Toml
