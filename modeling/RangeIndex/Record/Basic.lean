import RangeIndex.Record.Error
import RangeIndex.Span
import RangeIndex.Text.Numeral

/-!
# Values in records

Every record of an index is a list of fields. The pieces that several kinds of record share are
read here: numbers, flags and spans. A record is read under a format version, and only
`formatVersion` is known.
-/

namespace RangeIndex

open RangeIndex.Text (readNumeral? writeNumeral)

/-- The version of the index format. -/
def formatVersion : UInt32 := 1

namespace Record

/-- Accepts the known format version only. -/
def checkVersion (version : UInt32) : Except RecordError Unit :=
  if version = formatVersion then .ok () else .error (.unsupportedVersion (writeNumeral version))

/-- Reads a number of 32 bits. -/
def readNumber (field : String) : Except RecordError UInt32 :=
  match readNumeral? field with
  | some n => .ok n
  | none => .error (.invalidNumber field)

/-- Reads a flag. -/
def readFlag (field : String) : Except RecordError Bool :=
  match field with
  | "true" => .ok true
  | "false" => .ok false
  | _ => .error (.invalidFlag field)

/-- Writes a flag. -/
def writeFlag (b : Bool) : String :=
  if b then "true" else "false"

/-- Reads a span from its start and its length. -/
def readSpan (start length : String) : Except RecordError Span := do
  let start ← readNumber start
  let length ← readNumber length
  return ⟨start, length⟩

/-- Writes a span as its start and its length. -/
def writeSpan (s : Span) : List String :=
  [writeNumeral s.start, writeNumeral s.length]

end Record

end RangeIndex
