import RangeIndex.Command.Event
import RangeIndex.Command.Path
import RangeIndex.Command.Settings

/-!
# What commands need from the outside

Commands read files and standard input and create files. A `Host` gives them these operations in
some monad, so that the same commands run on the file system and on a tree of files in memory.
-/

namespace RangeIndex.Command

/-- The operations of the outside world. Opening a file may succeed where reading it fails. -/
structure Host (m : Type → Type) where
  /-- Opens a file, and reads it. -/
  read : String → m (Except SystemError (Except SystemError ByteArray))
  /-- Whether a path leads to a file. -/
  isFile : String → m Bool
  /-- Reads standard input. -/
  readStdin : m (Except SystemError ByteArray)
  /-- Creates a file with the given text. -/
  create : String → String → m (Except SystemError Unit)

namespace Host

variable {m : Type → Type} [Monad m] (host : Host m)

/-- Reads a file, whichever way it fails. -/
def readWhole (path : String) : m (Except SystemError ByteArray) := do
  match ← host.read path with
  | .ok content => return content
  | .error e => return .error e

/-- What reading gives, as an index. -/
def indexOf (content : Except SystemError ByteArray) : Reading :=
  match content with
  | .ok bytes => Index.ofBytes bytes
  | .error e => ⟨[], .error (.unreadable e)⟩

/-- Reads an index from a file, or from standard input if the path is `-`. -/
def readIndex (path : String) : m (Run Index) := do
  if Path.isStdin path then
    return Run.ofReading .readingInput (indexOf (← host.readStdin))
  match ← host.read path with
  | .error e => return ⟨[], .error (.opening path e)⟩
  | .ok content => return Run.ofReading (.readingIndex path) (indexOf content)

/-- The file that settings are read from if no other is named. -/
def settingsFile : String := "xrefmap.toml"

/-- Reads the settings from a file. -/
def readSettings (path : String) : m (Except Failure Settings) := do
  match ← host.readWhole path with
  | .error e => return .error (.settingsUnreadable path e)
  | .ok bytes =>
    match String.fromUTF8? bytes with
    | none => return .error (.settingsUnreadable path .invalidText)
    | some text =>
      match Settings.parse? text with
      | none => return .error (.settingsInvalid path)
      | some settings => return .ok settings

/-- The settings from the given file, or from the usual one if there is one. -/
def loadSettings (path : Option String) : m (Except Failure Settings) := do
  match path with
  | some path => host.readSettings path
  | none =>
    if ← host.isFile settingsFile then host.readSettings settingsFile
    else return .ok Settings.default

end Host

end RangeIndex.Command
