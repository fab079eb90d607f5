import RangeIndex.Command.Arguments
import RangeIndex.Command.Host

/-!
# Checking sources against an index

Every indexed file is compared with the source of the same name: it is fresh, stale, or missing. A
source that is there and cannot be read makes the whole check fail. A check that fails fast stops
at the first file that is not fresh, and reads no source after it.
-/

namespace RangeIndex.Command.Check

/-- What reading a source gives. -/
inductive Source where
  | content (bytes : ByteArray)
  | notFound
  | unreadable (cause : SystemError)

/-- What reading a file means for a source. -/
def Source.ofRead : Except SystemError ByteArray → Source
  | .ok bytes => .content bytes
  | .error .notFound => .notFound
  | .error e => .unreadable e

/-- Why a file is not fresh. -/
inductive Problem where
  | stale (stale : Stale)
  | missing (filename : String)
deriving DecidableEq, Repr

/-- The event that reports a problem. -/
def Problem.event : Problem → CommandEvent
  | .stale s => .stale s
  | .missing filename => .missing filename

/-- How many files were looked at, and the problems found. -/
structure Report where
  checked : Nat
  problems : List Problem
deriving DecidableEq, Repr

/-- Whether no problem was found. -/
def Report.isClean (r : Report) : Bool :=
  r.problems.isEmpty

/-- Compares a file with its source. -/
def checkFile (f : FileIndex) : Source → Except SystemError (Option Problem)
  | .content bytes =>
    match f.verify bytes with
    | .ok () => .ok none
    | .error s => .ok (some (.stale s))
  | .notFound => .ok (some (.missing f.filename))
  | .unreadable e => .error e

/-- A source that cannot be read, and the problems found before it. -/
structure Unreadable where
  filename : String
  cause : SystemError
  problems : List Problem

section

variable {m : Type → Type} [Monad m]

/-- Reads the source of a file under a root. -/
def readSource (host : Host m) (root : String) (f : FileIndex) : m Source :=
  return Source.ofRead (← host.readWhole (Path.join root f.filename))

/-- Reads the sources of files one after the other and compares them, after the files that `report`
is about. -/
def checkFiles (read : FileIndex → m Source) (failFast : Bool) (report : Report) :
    List FileIndex → m (Except Unreadable Report)
  | [] => return .ok report
  | f :: rest => do
    match checkFile f (← read f) with
    | .error e => return .error ⟨f.filename, e, report.problems⟩
    | .ok none => checkFiles read failFast { report with checked := report.checked + 1 } rest
    | .ok (some problem) =>
      let report := ⟨report.checked + 1, report.problems ++ [problem]⟩
      if failFast then return .ok report else checkFiles read failFast report rest

/-- The result of comparing the files under a root with their sources. -/
def result (root : String) : Except Unreadable Report → Run Report
  | .error e =>
    ⟨e.problems.map Problem.event,
      .error (.readingSource (Path.join root e.filename) e.cause)⟩
  | .ok report =>
    ⟨report.problems.map Problem.event ++
        [.checkFinished report.checked report.problems.length root], .ok report⟩

/-- Checks the sources of an index. -/
def run (host : Host m) (args : CheckArgs) (settings : Settings) : m (Run Report) := do
  match args.root.or settings.root with
  | none => return ⟨[], .error .noRoot⟩
  | some root =>
    let reading ← host.readIndex args.input
    match reading.outcome with
    | .error e => return ⟨reading.events, .error e⟩
    | .ok index =>
      let failFast := args.failFast || settings.failFast
      let checked := result root
        (← checkFiles (readSource host root) failFast ⟨0, []⟩ index.values)
      return { checked with events := reading.events ++ checked.events }

end

end RangeIndex.Command.Check
