import RangeIndex.Field.Quote
import RangeIndex.Index.File

/-!
# The text of an index

A file's index is written as a block of lines: a `start` record, the links, the declarations and
occurrences merged by where they start, and an `end` record.

The block is first laid out as lines with a depth. A declaration is open from its own record until
the first record that starts at or after its end, and the depth of a line is the number of
declarations open around it. `Style.pretty` indents by depth and adds comments where declarations
open and close; `Style.compact` writes the records only.
-/

namespace RangeIndex

open RangeIndex.Text (writeNumeral)

/-- How an index is written. -/
inductive Style where
  | pretty
  | compact
deriving DecidableEq, Repr

namespace Layout

/-- A line of a block before it is written. -/
inductive Line where
  | record (depth : Nat) (fields : List String)
  | comment (depth : Nat) (text : String)
deriving DecidableEq, Repr

/-- A declaration or an occurrence. -/
inductive Item where
  | declaration (d : Declaration)
  | occurrence (o : Occurrence)
deriving DecidableEq, Repr

/-- Where an item starts. -/
def Item.start : Item → UInt32
  | .declaration d => d.span.start
  | .occurrence o => o.span.start

/-- Merges occurrences and declarations by start. A declaration goes before the occurrences that
start where it does. -/
def weave : List Occurrence → List Declaration → List Item
  | [], ds => ds.map .declaration
  | os, [] => os.map .occurrence
  | o :: os, d :: ds =>
    if d.span.start ≤ o.span.start then
      .declaration d :: weave (o :: os) ds
    else
      .occurrence o :: weave os (d :: ds)
termination_by os ds => os.length + ds.length

/-- The comment where a declaration ends, with `depth` declarations still open around it. -/
def closing (depth : Nat) (d : Declaration) : Line :=
  .comment depth ("End " ++ d.kind.label)

/-- Closes the innermost open declarations as long as they end at or before `pos`. The open
declarations are listed from the inside out. -/
def closeUntil (pos : UInt32) : List Declaration → List Line × List Declaration
  | [] => ([], [])
  | d :: outer =>
    if d.span.stop ≤ pos then
      let (lines, rest) := closeUntil pos outer
      (closing outer.length d :: lines, rest)
    else
      ([], d :: outer)

/-- Closes all open declarations. -/
def closeAll : List Declaration → List Line
  | [] => []
  | d :: outer => closing outer.length d :: closeAll outer

/-- Lays out items inside the declarations that are open around them. -/
def nest (opened : List Declaration) : List Item → List Line
  | [] => closeAll opened
  | item :: items =>
    let (lines, opened) := closeUntil item.start opened
    lines ++
      match item with
      | .declaration d =>
        .record opened.length (d.kind.token :: d.write) ::
          .comment opened.length ("Start " ++ d.display) :: nest (d :: opened) items
      | .occurrence o => .record opened.length (o.kind.token :: o.write) :: nest opened items

/-- The lines for accessor links. -/
def linkLines (links : List AccessorLink) : List Line :=
  if links.isEmpty then
    []
  else
    .comment 0 "Start Meta" ::
      (links.map fun l => .record 1 ("meta" :: AccessorLink.token :: l.write)) ++
        [.comment 0 "End Meta"]

/-- The lines of a file's block. -/
def ofFile (f : FileIndex) : List Line :=
  .record 0 ["start", writeNumeral formatVersion, f.filename, f.hash] ::
    (linkLines f.links ++ nest [] (weave f.occurrences f.declarations) ++ [.record 0 ["end"]])

/-- The indentation of a line. -/
def indent (depth : Nat) : List Char :=
  List.replicate (2 * depth) ' '

/-- A character of a comment. Line breaks are escaped, so that the comment stays on its line. -/
def commentChar (c : Char) : List Char :=
  match c with
  | '\n' => ['\\', 'n']
  | '\r' => ['\\', 'r']
  | c => [c]

/-- Writes a line in the given style. -/
def Line.render (style : Style) (line : Line) : List Char :=
  match style, line with
  | .pretty, .record depth fields => indent depth ++ (Field.join fields).toList ++ ['\n']
  | .pretty, .comment depth text =>
    indent depth ++ '#' :: ' ' :: (text.toList.flatMap commentChar ++ ['\n'])
  | .compact, .record _ fields => (Field.join fields).toList ++ ['\n']
  | .compact, .comment _ _ => []

end Layout

/-- The text of a file's index. -/
def FileIndex.toText (style : Style) (f : FileIndex) : String :=
  String.ofList ((Layout.ofFile f).flatMap (Layout.Line.render style))

/-- The text of several files' indexes, one after the other. -/
def writeAll (style : Style) (files : List FileIndex) : String :=
  String.join (files.map (FileIndex.toText style))

end RangeIndex
