import RangeIndex.Field.Split
import RangeIndex.Index.Event
import RangeIndex.Index.File
import RangeIndex.SystemError
import RangeIndex.Text.Lines

/-!
# Reading an index

An index is a sequence of blocks. A block is a `start` line with the format version, a file's name
and its hash, then the file's records, then an `end` line. Blank lines and comments may stand
anywhere.

`Reader.step` takes in one line and stops at the first line that does not fit; `Reader.run` takes
in all lines and checks that the last block has ended. `Index.parse` reads a whole text.
-/

namespace RangeIndex

/-- What is wrong with the bounds of a block. -/
inductive BlockError where
  /-- The block opened on line `start` has no end. -/
  | missingEnd (start : Nat)
  /-- An end without a block. -/
  | strayEnd
  /-- A record outside of a block. -/
  | outsideBlock
deriving DecidableEq, Repr

/-- The message for a block with wrong bounds. -/
def BlockError.message : BlockError → String
  | .missingEnd start => s!"block opened on line #{start} has no end"
  | .strayEnd => "end with no matching start"
  | .outsideBlock => "record outside of a start/end block"

/-- Why an index cannot be read. Lines are counted from one. -/
inductive ReadError where
  | malformedLine (line : Nat) (text : String) (cause : RecordError)
  | malformedBlock (line : Nat) (cause : BlockError)
  | unreadable (cause : SystemError)
deriving DecidableEq, Repr

/-- The message for an index that cannot be read. -/
def ReadError.message : ReadError → String
  | .malformedLine line text cause =>
    s!"invalid range map line #{line}: " ++ text ++ ": " ++ cause.message
  | .malformedBlock line cause => s!"invalid range map block at line #{line}: " ++ cause.message
  | .unreadable cause => "I/O error: " ++ cause.message

/-- A record of a block. -/
inductive Entry where
  | occurrence (o : Occurrence)
  | declaration (d : Declaration)
  | link (l : AccessorLink)
deriving DecidableEq, Repr

namespace Entry

/-- The word that ends the token of a declaration. -/
def declarationSuffix : List Char := ['d', 'e', 'f']

/-- The name of the kind of declaration whose token this would be. -/
def declarationName? (head : String) : Option String :=
  if declarationSuffix.isSuffixOf head.toList then
    some (String.ofList (head.toList.take (head.toList.length - declarationSuffix.length)))
  else
    none

/-- Reads the record with the given first field and further fields. -/
def read (head : String) (fields : List String) : Except RecordError Entry :=
  if head = "meta" then
    match fields with
    | [] => .error (.arity "meta" 1 0)
    | kind :: fields => (AccessorLink.read formatVersion kind fields).map .link
  else
    match declarationName? head with
    | some name => (Declaration.read formatVersion name fields).map .declaration
    | none => (Occurrence.read formatVersion head fields).map .occurrence

end Entry

/-- A file's index with one more record. -/
def FileIndex.push (f : FileIndex) : Entry → FileIndex
  | .occurrence o => { f with occurrences := f.occurrences ++ [o] }
  | .declaration d => { f with declarations := f.declarations ++ [d] }
  | .link l => { f with links := f.links ++ [l] }

/-- A block that has not ended: the line where it starts and its content so far. -/
structure Block where
  line : Nat
  file : FileIndex
deriving DecidableEq, Repr

namespace Block

/-- Accepts the numeral of the known format version. -/
def readVersion (field : String) : Except RecordError Unit :=
  if Text.readNumeral? field = some formatVersion then .ok ()
  else .error (.unsupportedVersion field)

/-- Opens a block on a line, from the fields after `start`. -/
def start (line : Nat) (fields : List String) : Except RecordError Block :=
  match fields with
  | [version, filename, hash] => do
    readVersion version
    return ⟨line, ⟨filename, hash, [], [], []⟩⟩
  | fields => .error (.arity "start" 3 fields.length)

end Block

/-- The state between two lines: the number of lines read, the files of the blocks that have
ended, the block that has not, and the events so far. -/
structure Reader where
  line : Nat
  index : Index
  block : Option Block
  events : List IndexEvent

/-- The result of reading an index, with what was reported on the way. -/
structure Reading where
  events : List IndexEvent
  outcome : Except ReadError Index

namespace Reader

/-- The state before the first line. -/
def new : Reader :=
  ⟨0, OrderedMap.empty, none, []⟩

/-- Takes in the fields of a `start` line. -/
def start (r : Reader) (line : Nat) (raw : String) (fields : List String) :
    Except ReadError Reader :=
  match r.block with
  | some block => .error (.malformedBlock line (.missingEnd block.line))
  | none =>
    match Block.start line fields with
    | .error cause => .error (.malformedLine line raw cause)
    | .ok block => .ok { r with line := line, block := some block }

/-- Takes in the fields of an `end` line. -/
def finishBlock (r : Reader) (line : Nat) (raw : String) (fields : List String) :
    Except ReadError Reader :=
  match r.block with
  | none => .error (.malformedBlock line .strayEnd)
  | some block =>
    if fields.isEmpty then
      let events :=
        if r.index.contains block.file.filename then
          [IndexEvent.duplicateBlock block.file.filename line]
        else
          []
      .ok ⟨line, r.index.add block.file, none, r.events ++ events⟩
    else
      .error (.malformedLine line raw (.arity "end" 0 fields.length))

/-- Takes in a record of the open block. -/
def push (r : Reader) (line : Nat) (raw : String) (head : String) (fields : List String) :
    Except ReadError Reader :=
  match r.block with
  | none => .error (.malformedBlock line .outsideBlock)
  | some block =>
    match Entry.read head fields with
    | .error cause => .error (.malformedLine line raw cause)
    | .ok entry =>
      .ok { r with line := line, block := some { block with file := block.file.push entry } }

/-- Takes in one line. -/
def step (r : Reader) (raw : String) : Except ReadError Reader :=
  let line := r.line + 1
  match Field.split raw with
  | .error e => .error (.malformedLine line raw (.quoting e))
  | .ok [] => .ok { r with line := line }
  | .ok (head :: fields) =>
    if head = "start" then r.start line raw fields
    else if head = "end" then r.finishBlock line raw fields
    else r.push line raw head fields

/-- The index once all lines are read: every block has to have ended. -/
def finish (r : Reader) : Except ReadError Index :=
  match r.block with
  | some block => .error (.malformedBlock block.line (.missingEnd block.line))
  | none => .ok r.index

/-- Takes in the remaining lines. -/
def run (r : Reader) : List String → Reading
  | [] => ⟨r.events, r.finish⟩
  | raw :: rest =>
    match r.step raw with
    | .error e => ⟨r.events, .error e⟩
    | .ok next => run next rest

end Reader

/-- Reads the text of an index. -/
def Index.parse (text : String) : Reading :=
  Reader.new.run (Text.lines text)

/-- Reads the bytes of an index, which have to be UTF-8. -/
def Index.ofBytes (bytes : ByteArray) : Reading :=
  match String.fromUTF8? bytes with
  | some text => Index.parse text
  | none => ⟨[], .error (.unreadable .invalidText)⟩

end RangeIndex
