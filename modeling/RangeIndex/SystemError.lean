/-!
# Failures of the file system

The ways in which opening, reading or creating a file fails, with the system's text for each.
-/

namespace RangeIndex

/-- Why a file could not be opened, read or created. -/
inductive SystemError where
  | notFound
  | notDirectory
  | isDirectory
  | nameTooLong
  | nulInPath
  | invalidText
  | other (message : String)
deriving DecidableEq, Repr

/-- The system's text for a failure. -/
def SystemError.message : SystemError → String
  | .notFound => "No such file or directory (os error 2)"
  | .notDirectory => "Not a directory (os error 20)"
  | .isDirectory => "Is a directory (os error 21)"
  | .nameTooLong => "File name too long (os error 36)"
  | .nulInPath => "file name contained an unexpected NUL byte"
  | .invalidText => "stream did not contain valid UTF-8"
  | .other message => message

end RangeIndex
