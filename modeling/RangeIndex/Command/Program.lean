import RangeIndex.Command.Check
import RangeIndex.Command.Format

/-!
# The program

Arguments in, exit code and output out. The program ends with 0 if all went well, with 1 if a
command failed, and with 2 if a check found problems or the arguments were wrong.
-/

namespace RangeIndex.Command

/-- How a run of the program ends. -/
structure Ending where
  code : UInt8
  output : String
  log : List Log.Record
deriving DecidableEq, Repr

/-- Keeps the part of the log that is shown. -/
def Ending.shown (verbose : Bool) (e : Ending) : Ending :=
  { e with log := e.log.filter fun r => r.level.isShown verbose }

namespace Program

/-- The name and version of the program. -/
def version : String := "xrefmap 0.10.0"

/-- How the program is used. -/
def usage : String :=
  "\n".intercalate [
    "Inspect and maintain range map index files",
    "",
    "Usage: xrefmap [OPTIONS] <COMMAND>",
    "",
    "Commands:",
    "  fmt    Parse an index file and write it back sorted and normalized",
    "  check  Verify that every indexed source file is unchanged",
    "  help   Print this message or the help of the given subcommand(s)",
    "",
    "Options:",
    "      --config <PATH>  Configuration file (defaults to ./xrefmap.toml when present)",
    "  -v, --verbose        Verbose logging",
    "  -h, --help           Print help",
    "  -V, --version        Print version"]

/-- The message for wrong arguments. -/
def complaint : UsageError → String
  | .nothingGiven | .helpRequested => usage
  | .versionRequested => version
  | .missingSubcommand => "a subcommand is required but one was not provided"
  | .invalidSubcommand => "unrecognized subcommand"
  | .missingInput => "the input was not provided"
  | .unknownArgument => "unexpected argument found"
  | .invalidValue => "a value is required but none was supplied"
  | .valueOfFlag => "unexpected value for a flag"
  | .conflict => "an argument cannot be used with another one"

/-- The record that reports a message as an error. -/
def errorRecord (message : String) : Log.Record :=
  ⟨.error, message, []⟩

/-- How a run with wrong arguments ends. -/
def refuse (e : UsageError) : Ending :=
  match e with
  | .helpRequested | .versionRequested => ⟨0, complaint e ++ "\n", []⟩
  | e => ⟨2, "", [errorRecord (complaint e)]⟩

/-- How a run ends in which a command fails. -/
def fail (events : List CommandEvent) (e : Failure) : Ending :=
  ⟨1, "", events.map CommandEvent.record ++ [errorRecord e.message]⟩

/-- How a run that writes an index back ends. -/
def endFormat (r : Run String) : Ending :=
  match r.outcome with
  | .ok text => ⟨0, text, r.events.map CommandEvent.record⟩
  | .error e => fail r.events e

/-- How a run that checks sources ends. -/
def endCheck (r : Run Check.Report) : Ending :=
  match r.outcome with
  | .ok report => ⟨if report.isClean then 0 else 2, "", r.events.map CommandEvent.record⟩
  | .error e => fail r.events e

variable {m : Type → Type} [Monad m] (host : Host m)

/-- Does what is asked for. -/
def perform (i : Invocation) : m Ending := do
  match ← host.loadSettings i.config with
  | .error e => return fail [] e
  | .ok settings =>
    match i.action with
    | .format args => return endFormat (← Format.run host args settings)
    | .check args => return endCheck (← Check.run host args settings)

/-- Runs the program. -/
def run (args : List String) : m Ending := do
  match Invocation.parse args with
  | .error e => return refuse e
  | .ok invocation => return (← perform host invocation).shown invocation.verbose

end Program

end RangeIndex.Command
