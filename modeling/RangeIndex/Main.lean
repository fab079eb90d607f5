import RangeIndex.Command.Program

/-!
# The command line tool

The program on the real file system: the output goes to standard output and the log to standard
error.
-/

namespace RangeIndex

/-- The failure that the system's error number stands for. -/
def SystemError.ofCode (code : UInt32) (details : String) : SystemError :=
  match code with
  | 2 => .notFound
  | 20 => .notDirectory
  | 21 => .isDirectory
  | 36 => .nameTooLong
  | code => .other (details ++ " (os error " ++ toString code ++ ")")

/-- The failure that an error of the system stands for. -/
def SystemError.ofError : IO.Error → SystemError
  | .noFileOrDirectory _ code details
  | .inappropriateType _ code details
  | .permissionDenied _ code details
  | .invalidArgument _ code details
  | .resourceExhausted _ code details
  | .noSuchThing _ code details
  | .alreadyExists _ code details
  | .otherError code details => ofCode code details
  | e => .other (toString e)

namespace Command

/-- The result of an action that may fail. -/
def attempt {α : Type} (action : IO α) : IO (Except SystemError α) := do
  try
    return .ok (← action)
  catch e =>
    return .error (SystemError.ofError e)

/-- Opens a file, and reads it. -/
def readFile (path : String) : IO (Except SystemError (Except SystemError ByteArray)) := do
  if path.contains '\x00' then
    return .error .nulInPath
  match ← attempt (IO.FS.Handle.mk path .read) with
  | .error e => return .error e
  | .ok handle => return .ok (← attempt handle.readBinToEnd)

/-- The file system. -/
def fileSystem : Host IO where
  read := readFile
  isFile path := do
    match ← readFile path with
    | .error _ | .ok (.error .isDirectory) => return false
    | .ok _ => return true
  readStdin := do attempt (← IO.getStdin).readBinToEnd
  create path text := do
    if path.contains '\x00' then
      return .error .nulInPath
    attempt (IO.FS.writeFile path text)

end Command

end RangeIndex

open RangeIndex.Command in
/-- Runs the program on the file system. -/
def main (args : List String) : IO UInt32 := do
  let ending ← Program.run fileSystem args
  for record in ending.log do
    IO.eprintln record.display
  IO.print ending.output
  return ending.code.toUInt32
