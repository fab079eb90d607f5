import RangeIndex.Toml.Scan

/-!
# TOML strings

Basic strings stand between double quotes and have escapes, literal strings stand between single
quotes and have none. Tripled quotes make a string of several lines, whose first line end does not
count, and in which one or two quotes are text.
-/

namespace RangeIndex.Toml

/-- Where scanning a basic string stands. -/
inductive BasicMode where
  | plain
  /-- After a backslash. -/
  | escape
  /-- In a code point with so many digits to come. -/
  | codePoint (left value : Nat)
  /-- After so many quotes in a row. -/
  | quotes (count : Nat)
  /-- After a backslash and a blank, before the end of the line. -/
  | beforeLineEnd
  /-- After a backslash at the end of a line, before the next text. -/
  | afterLineEnd

/-- The value of a hexadecimal digit. -/
def hexDigit? (c : Char) : Option Nat :=
  if c.isDigit then some (c.toNat - '0'.toNat)
  else if 'a' ≤ c && c ≤ 'f' then some (c.toNat - 'a'.toNat + 10)
  else if 'A' ≤ c && c ≤ 'F' then some (c.toNat - 'A'.toNat + 10)
  else none

/-- The character with the given code point. -/
def charOf? (n : Nat) : Option Char :=
  if n.isValidChar then some (Char.ofNat n) else none

/-- The character that a backslash before `c` writes. -/
def simpleEscape? : Char → Option Char
  | 'b' => some '\x08'
  | 't' => some '\t'
  | 'n' => some '\n'
  | 'f' => some '\x0c'
  | 'r' => some '\r'
  | 'e' => some '\x1b'
  | '"' => some '"'
  | '\\' => some '\\'
  | _ => none

/-- The number of digits of the code point that a backslash before `c` starts. -/
def codePointDigits? : Char → Option Nat
  | 'x' => some 2
  | 'u' => some 4
  | 'U' => some 8
  | _ => none

/-- Takes the rest of a basic string, over several lines if `multi`, up to its closing quotes. -/
def basicRest (multi : Bool) (mode : BasicMode) (cs : List Char) :
    Option (List Char × List Char) :=
  let push (text : List Char) (r : Option (List Char × List Char)) :=
    r.map fun (value, rest) => (text ++ value, rest)
  match mode, cs with
  | .quotes n, [] => if 3 ≤ n then some (List.replicate (n - 3) '"', []) else none
  | _, [] => none
  | .plain, c :: rest =>
    if c = '"' then
      if multi then basicRest multi (.quotes 1) rest else some ([], rest)
    else if c = '\\' then
      basicRest multi .escape rest
    else if isText c || (multi && c = '\n') || (multi && c = '\r' && rest.head? = some '\n') then
      push [c] (basicRest multi .plain rest)
    else
      none
  | .escape, c :: rest =>
    match simpleEscape? c, codePointDigits? c with
    | some d, _ => push [d] (basicRest multi .plain rest)
    | none, some digits => basicRest multi (.codePoint digits 0) rest
    | none, none =>
      if !multi then none
      else if isBlank c then basicRest multi .beforeLineEnd rest
      else if c = '\n' then basicRest multi .afterLineEnd rest
      else if c = '\r' && rest.head? = some '\n' then basicRest multi .beforeLineEnd rest
      else none
  | .codePoint left value, c :: rest =>
    match hexDigit? c with
    | none => none
    | some d =>
      if 1 < left then basicRest multi (.codePoint (left - 1) (16 * value + d)) rest
      else
        match charOf? (16 * value + d) with
        | none => none
        | some d => push [d] (basicRest multi .plain rest)
  | .quotes n, c :: rest =>
    if c = '"' then
      if n < 5 then basicRest multi (.quotes (n + 1)) rest else none
    else if 3 ≤ n then
      some (List.replicate (n - 3) '"', c :: rest)
    else
      push (List.replicate n '"') (basicRest multi .plain (c :: rest))
  | .beforeLineEnd, c :: rest =>
    if isBlank c || (c = '\r' && rest.head? = some '\n') then basicRest multi .beforeLineEnd rest
    else if c = '\n' then basicRest multi .afterLineEnd rest
    else none
  | .afterLineEnd, c :: rest =>
    if isBlank c || c = '\n' || (c = '\r' && rest.head? = some '\n') then
      basicRest multi .afterLineEnd rest
    else
      basicRest multi .plain (c :: rest)
termination_by (cs.length, match mode with | .plain => 0 | _ => 1)

/-- Takes the rest of a literal string, up to its closing quote. -/
def literalRest : List Char → Option (List Char × List Char)
  | [] => none
  | c :: rest =>
    if c = '\'' then some ([], rest)
    else if isText c then (literalRest rest).map fun (value, rest) => (c :: value, rest)
    else none

/-- Takes the rest of a literal string of several lines after `quotes` quotes in a row. -/
def literalLinesRest (quotes : Nat) : List Char → Option (List Char × List Char)
  | [] => if 3 ≤ quotes then some (List.replicate (quotes - 3) '\'', []) else none
  | c :: rest =>
    if c = '\'' then
      if quotes < 5 then literalLinesRest (quotes + 1) rest else none
    else if 3 ≤ quotes then
      some (List.replicate (quotes - 3) '\'', c :: rest)
    else if isText c || c = '\n' || (c = '\r' && rest.head? = some '\n') then
      (literalLinesRest 0 rest).map fun (value, rest) =>
        (List.replicate quotes '\'' ++ c :: value, rest)
    else
      none

/-- Takes a string of one line with the given quote. -/
def lineString (quote : Char) : Scan String := do
  Scan.char quote
  let value ← if quote = '"' then (basicRest false .plain : Scan (List Char)) else literalRest
  return String.ofList value

/-- Takes a string of several lines with the given quote. -/
def linesString (quote : Char) : Scan String := do
  Scan.char quote
  Scan.char quote
  Scan.char quote
  let _ ← Scan.optional lineEnd
  let value ← if quote = '"' then (basicRest true .plain : Scan (List Char)) else literalLinesRest 0
  return String.ofList value

/-- Takes a string with the given quote. -/
def quotedString (quote : Char) : Scan String := do
  if [quote, quote, quote].isPrefixOf (← get) then linesString quote else lineString quote

end RangeIndex.Toml
