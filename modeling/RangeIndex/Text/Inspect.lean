import RangeIndex.Text.GraphemeExtend
import RangeIndex.Text.Printable

/-!
# Texts shown in messages

`inspect` shows a text between double quotes so that every character can be told apart: quotes,
backslashes and the common control characters get short escapes, and a character that cannot be
seen on its own is written as its code point.
-/

namespace RangeIndex.Text

/-- The code point of `c` in lowercase hexadecimal between `\u{` and `}`. -/
def codePointEscape (c : Char) : List Char :=
  '\\' :: 'u' :: '\x7b' :: (Nat.toDigits 16 c.toNat ++ ['\x7d'])

/-- One character of a shown text. -/
def inspectChar (c : Char) : List Char :=
  match c with
  | '"' => ['\\', '"']
  | '\\' => ['\\', '\\']
  | '\t' => ['\\', 't']
  | '\r' => ['\\', 'r']
  | '\n' => ['\\', 'n']
  | '\x00' => ['\\', '0']
  | c => if isGraphemeExtend c || !isPrintable c then codePointEscape c else [c]

/-- Shows a text between double quotes. -/
def inspect (s : String) : String :=
  String.ofList ('"' :: (s.toList.flatMap inspectChar ++ ['"']))

/-- Shows a list of texts as a set between braces. -/
def inspectSet (texts : List String) : String :=
  "\x7b" ++ ", ".intercalate (texts.map inspect) ++ "\x7d"

end RangeIndex.Text
