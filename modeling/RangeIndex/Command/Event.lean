import RangeIndex.Index.Reader

/-!
# Events and failures of commands
-/

namespace RangeIndex.Command

/-- What commands report. -/
inductive CommandEvent where
  | index (event : IndexEvent)
  | stale (stale : Stale)
  | missing (filename : String)
  | checkFinished (checked problems : Nat) (root : String)
  | formatted (files : Nat) (output : String)
deriving DecidableEq, Repr

/-- The log record of an event. -/
def CommandEvent.record : CommandEvent → Log.Record
  | .index event => event.record
  | .stale s =>
    ⟨.warn, "stale index",
      [("filename", .text s.filename), ("expected", .text s.expected), ("actual", .text s.actual)]⟩
  | .missing filename => ⟨.warn, "indexed file is missing", [("filename", .text filename)]⟩
  | .checkFinished checked problems root =>
    ⟨.info, "check finished",
      [("checked", .number checked), ("problems", .number problems), ("root", .text root)]⟩
  | .formatted files output =>
    ⟨.info, "formatted index", [("files", .number files), ("output", .text output)]⟩

/-- Why a command fails. -/
inductive Failure where
  /-- The settings cannot be read. -/
  | settingsUnreadable (path : String) (cause : SystemError)
  /-- The settings are not valid. -/
  | settingsInvalid (path : String)
  /-- The index cannot be opened. -/
  | opening (path : String) (cause : SystemError)
  /-- The index in a file cannot be read. -/
  | readingIndex (path : String) (cause : ReadError)
  /-- The index on standard input cannot be read. -/
  | readingInput (cause : ReadError)
  /-- An indexed file cannot be read. -/
  | readingSource (path : String) (cause : SystemError)
  /-- The output cannot be created. -/
  | creating (path : String) (cause : SystemError)
  /-- It is not known where the sources are. -/
  | noRoot
deriving DecidableEq, Repr

namespace Failure

/-- An error of reading with what caused it. -/
def chain (e : ReadError) : String :=
  match e with
  | .malformedLine _ _ cause => e.message ++ ": " ++ cause.message
  | .malformedBlock _ _ => e.message
  | .unreadable cause => e.message ++ ": " ++ cause.message

/-- The message for a failure, with its causes. -/
def message : Failure → String
  | .settingsUnreadable path cause => "I/O error reading " ++ path ++ ": " ++ cause.message
  | .settingsInvalid path => "invalid configuration in " ++ path
  | .opening path cause => "opening " ++ path ++ ": " ++ cause.message
  | .readingIndex path cause => "reading " ++ path ++ ": " ++ chain cause
  | .readingInput cause => "reading index from stdin: " ++ chain cause
  | .readingSource path cause => "reading " ++ path ++ ": " ++ cause.message
  | .creating path cause => "creating " ++ path ++ ": " ++ cause.message
  | .noRoot => "no source root: pass --root or set check.root in the configuration"

end Failure

/-- The result of a command, with what was reported on the way. -/
structure Run (α : Type) where
  events : List CommandEvent
  outcome : Except Failure α

/-- The result of reading an index, as the result of a command. -/
def Run.ofReading (failure : ReadError → Failure) (r : Reading) : Run Index :=
  ⟨r.events.map .index, r.outcome.mapError failure⟩

end RangeIndex.Command
