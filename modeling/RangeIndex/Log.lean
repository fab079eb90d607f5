/-!
# Log records

What an operation reports besides its result: a level, a message and named details. Each part of
the library has its own type of events and turns them into log records.
-/

namespace RangeIndex.Log

/-- How important a record is. -/
inductive Level where
  | debug
  | info
  | warn
  | error
deriving DecidableEq, Repr

/-- The word for a level. -/
def Level.display : Level → String
  | .debug => "DEBUG"
  | .info => "INFO"
  | .warn => "WARN"
  | .error => "ERROR"

/-- Whether records of a level are shown. Those for debugging are shown only if asked for. -/
def Level.isShown (verbose : Bool) (level : Level) : Bool :=
  verbose || level ≠ .debug

/-- The value of a detail. -/
inductive Detail where
  | text (value : String)
  | number (value : Nat)
deriving DecidableEq, Repr

/-- The value of a detail as text. -/
def Detail.display : Detail → String
  | .text value => value
  | .number value => toString value

/-- A report with its details. -/
structure Record where
  level : Level
  message : String
  details : List (String × Detail)
deriving DecidableEq, Repr

/-- A record as one line. -/
def Record.display (r : Record) : String :=
  let details := r.details.map fun (name, value) => " " ++ name ++ "=" ++ value.display
  r.level.display ++ " " ++ r.message ++ String.join details

end RangeIndex.Log
