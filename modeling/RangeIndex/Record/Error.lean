import RangeIndex.Field.Split
import RangeIndex.Text.Inspect

/-!
# Errors in records

The ways in which one line of an index fails to be a record, and their messages.
-/

namespace RangeIndex

/-- Why a line is not a record. -/
inductive RecordError where
  /-- A quoted field is not well formed. -/
  | quoting (error : Field.SplitError)
  /-- The record has the wrong number of fields for its kind. -/
  | arity (kind : String) (expected found : Nat)
  /-- A numeric field is not a numeral of 32 bits. -/
  | invalidNumber (text : String)
  /-- A flag is neither `true` nor `false`. -/
  | invalidFlag (text : String)
  /-- No kind of occurrence has this token. -/
  | unknownOccurrence (token : String)
  /-- No kind of declaration has this name. -/
  | unknownDeclaration (name : String)
  /-- No kind of link has this token. -/
  | unknownLink (token : String)
  /-- The format version is not the one that is read. -/
  | unsupportedVersion (version : String)
deriving DecidableEq, Repr

namespace RecordError

open RangeIndex.Text (inspect)

/-- The message for a record that cannot be read. -/
def message : RecordError → String
  | .quoting (.unterminatedQuote column) =>
    s!"unterminated quoted field starting at byte {column}"
  | .quoting (.trailingAfterQuote column) =>
    s!"unexpected character after quoted field at byte {column}"
  | .quoting (.invalidEscape char) => "invalid escape sequence '\\" ++ char.toString ++ "'"
  | .arity kind expected found => s!"{kind} expects {expected} fields, found {found}"
  | .invalidNumber text => "invalid number: " ++ inspect text
  | .invalidFlag text => "invalid boolean: " ++ inspect text
  | .unknownOccurrence token => "unknown entry type: " ++ inspect token
  | .unknownDeclaration name => "unknown structure type: " ++ inspect name
  | .unknownLink token => "unknown meta type: " ++ inspect token
  | .unsupportedVersion version => "unsupported format spec: " ++ version

end RecordError

end RangeIndex
