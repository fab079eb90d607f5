/-!
# Lines of a text

A line ends at a line feed; one carriage return directly before the line feed belongs to the line
end. A carriage return elsewhere is text, and the last line needs no line end.
-/

namespace RangeIndex.Text

/-- A line's characters up to a line feed, without a carriage return at their end. -/
def dropLineEnd (line : List Char) : List Char :=
  if line.getLast? = some '\r' then line.dropLast else line

/-- The lines that remain, where `line` holds the characters of the current line so far, last
one first. -/
def linesFrom (line : List Char) : List Char → List (List Char)
  | [] => if line.isEmpty then [] else [line.reverse]
  | '\n' :: rest => dropLineEnd line.reverse :: linesFrom [] rest
  | c :: rest => linesFrom (c :: line) rest

/-- The lines of a text without their line ends. -/
def lines (text : String) : List String :=
  (linesFrom [] text.toList).map String.ofList

end RangeIndex.Text
