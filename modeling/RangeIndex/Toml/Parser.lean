import RangeIndex.Toml.Quoted
import RangeIndex.Toml.Scalar
import RangeIndex.Toml.Table

/-!
# Reading TOML

`parse?` reads a document. Scans that repeat or nest take a `limit` on their number of steps; each
step takes a character or is followed by one that does, so the length of the text bounds it.
-/

namespace RangeIndex.Toml

/-- Whether a character may stand in a key without quotes. -/
def isKeyChar (c : Char) : Bool :=
  c.isAlphanum || c = '_' || c = '-'

/-- Whether a character may stand in an unquoted value. -/
def isWordChar (c : Char) : Bool :=
  isKeyChar c || c = '+' || c = '.' || c = ':'

/-- Takes one part of a key. -/
def keyPart : Scan String := do
  match ← Scan.peek? with
  | some '"' => lineString '"'
  | some '\'' => lineString '\''
  | _ =>
    let name ← Scan.takeWhile isKeyChar
    Scan.require !name.isEmpty
    return String.ofList name

/-- Takes a key, whose parts are separated by dots. -/
def key (limit : Nat) : Scan (List String) := do
  match limit with
  | 0 => Scan.require false; return []
  | limit + 1 =>
    let part ← keyPart
    blanks
    if (← Scan.peek?) = some '.' then
      Scan.char '.'
      blanks
      return part :: (← key limit)
    return [part]

/-- Takes a boolean or a number. -/
def word : Scan Value := do
  let cs ← Scan.takeWhile isWordChar
  if cs = ['t', 'r', 'u', 'e'] then return .boolean true
  if cs = ['f', 'a', 'l', 's', 'e'] then return .boolean false
  Scan.require (isInteger cs || isFloat cs)
  return .number (String.ofList cs)

/-- Takes a date or a time that a further word does not continue. -/
def momentValue : Scan Value := do
  let ((), text) ← Scan.withText moment
  Scan.require !((← Scan.peek?).any isWordChar)
  return .moment text

/-- Takes an unquoted value. -/
def scalar : Scan Value := do
  match ← Scan.optional momentValue with
  | some value => return value
  | none => word

mutual

/-- Takes a value. -/
def value (limit : Nat) : Scan Value := do
  match limit with
  | 0 => Scan.require false; return .boolean false
  | limit + 1 =>
    match ← Scan.peek? with
    | some '"' => return .string (← quotedString '"')
    | some '\'' => return .string (← quotedString '\'')
    | some '[' =>
      Scan.char '['
      return .array (← arrayItems limit)
    | some '\x7b' =>
      Scan.char '\x7b'
      return .table .inline (← inlineEntries limit [])
    | _ => scalar

/-- Takes the items of an array and its closing bracket. -/
def arrayItems (limit : Nat) : Scan (List Value) := do
  match limit with
  | 0 => Scan.require false; return []
  | limit + 1 =>
    blankLines limit
    if (← Scan.peek?) = some ']' then
      Scan.char ']'
      return []
    let item ← value limit
    blankLines limit
    if (← Scan.peek?) = some ',' then
      Scan.char ','
      return item :: (← arrayItems limit)
    Scan.char ']'
    return [item]

/-- Takes the entries of an inline table after the given ones, and its closing brace. -/
def inlineEntries (limit : Nat) (entries : Entries) : Scan Entries := do
  match limit with
  | 0 => Scan.require false; return []
  | limit + 1 =>
    blankLines limit
    if (← Scan.peek?) = some '\x7d' then
      Scan.char '\x7d'
      return entries
    let path ← key limit
    blanks
    Scan.char '='
    blanks
    let item ← value limit
    match Entries.assign item path entries with
    | none => Scan.require false; return []
    | some entries =>
      blankLines limit
      if (← Scan.peek?) = some ',' then
        Scan.char ','
        inlineEntries limit entries
      else
        Scan.char '\x7d'
        return entries

end

/-- Takes a statement. -/
def statement (limit : Nat) : Scan Statement := do
  if ['[', '['].isPrefixOf (← get) then
    Scan.char '['
    Scan.char '['
    blanks
    let path ← key limit
    Scan.char ']'
    Scan.char ']'
    return .arrayHeader path
  if (← Scan.peek?) = some '[' then
    Scan.char '['
    blanks
    let path ← key limit
    Scan.char ']'
    return .header path
  let path ← key limit
  Scan.char '='
  blanks
  return .assign path (← value limit)

/-- Takes the statements of a document. -/
def statements (limit : Nat) : Scan (List Statement) := do
  match limit with
  | 0 => Scan.require false; return []
  | limit + 1 =>
    blankLines limit
    if (← get).isEmpty then
      return []
    let s ← statement limit
    endOfStatement
    return s :: (← statements limit)

/-- The characters of a document without the mark that may precede them. -/
def dropByteOrderMark : List Char → List Char
  | '\ufeff' :: rest => rest
  | cs => cs

/-- The table that a document describes. -/
def parse? (text : String) : Option Entries := do
  let cs := dropByteOrderMark text.toList
  let (statements, rest) ← statements (2 * cs.length + 2) cs
  if rest.isEmpty then Entries.build [] [] statements else none

end RangeIndex.Toml
