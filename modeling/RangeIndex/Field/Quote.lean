import RangeIndex.Text.Blank

/-!
# Writing fields

`quote` puts a field between quotes only where reading it bare would give something else: when it
is empty, starts with a quote, or holds a blank or `#`. `join` writes fields with one space between
neighbours. Line breaks inside a field are escaped, so what `join` writes is one line.
-/

namespace RangeIndex.Field

open RangeIndex.Text (isBlank)

/-- Whether a field has to be quoted. -/
def needsQuotes (cs : List Char) : Bool :=
  cs.isEmpty || cs.head? == some '"' || cs.any fun c => isBlank c || c == '#'

/-- A character as it stands in a quoted field. -/
def escape (c : Char) : List Char :=
  match c with
  | '"' => ['\\', '"']
  | '\\' => ['\\', '\\']
  | '\n' => ['\\', 'n']
  | '\r' => ['\\', 'r']
  | '\t' => ['\\', 't']
  | c => [c]

/-- The quoted form of a field. -/
def quoted (cs : List Char) : List Char :=
  '"' :: (cs.flatMap escape ++ ['"'])

/-- Writes a field, quoted if it has to be. -/
def quote (field : String) : String :=
  if needsQuotes field.toList then String.ofList (quoted field.toList) else field

/-- Writes fields as one line. -/
def join (fields : List String) : String :=
  " ".intercalate (fields.map quote)

end RangeIndex.Field
