/-!
# Arguments

The command line is options of the program, a subcommand, and the subcommand's own options and
input. An option is given by its long name, with its value after `=` or as the next argument, or by
a letter, with its value attached, after `=`, or as the next argument; letters of flags may be
joined. After `--` nothing is an option.

A value is taken in only when the next option, input or the end follows it, so a mistake in between
is found first. What is wrong in a subcommand is found before what is left over before it.
-/

namespace RangeIndex.Command

/-- What is wrong with a command line, or asked for in place of a run. -/
inductive UsageError where
  /-- Nothing is given. -/
  | nothingGiven
  /-- Only options are given. -/
  | missingSubcommand
  | invalidSubcommand
  /-- A subcommand has no input. -/
  | missingInput
  | unknownArgument
  /-- An option lacks its value, or a path is empty. -/
  | invalidValue
  /-- A flag is given a value. -/
  | valueOfFlag
  /-- An option is given twice, or together with one that excludes it. -/
  | conflict
  | helpRequested
  | versionRequested
deriving DecidableEq, Repr

/-- What can be given on the command line. -/
inductive Argument where
  | config
  | verbose
  | input
  | output
  | compact
  | pretty
  | root
  | failFast
  | help
  | version
deriving DecidableEq, Repr

/-- Whether an argument has a value. -/
def Argument.takesValue : Argument → Bool
  | .config | .input | .output | .root => true
  | _ => false

/-- The subcommands. -/
inductive Subcommand where
  | format
  | check
deriving DecidableEq, Repr

/-- The subcommand with the given name. -/
def Subcommand.ofName? : String → Option Subcommand
  | "fmt" => some .format
  | "check" => some .check
  | _ => none

/-- The part of the command line before the subcommand, or that of a subcommand. -/
inductive Part where
  | program
  | subcommand (s : Subcommand)
deriving DecidableEq, Repr

namespace Part

/-- The option with the given long name. -/
def long? (part : Part) (name : String) : Option Argument :=
  match name, part with
  | "config", _ => some .config
  | "verbose", _ => some .verbose
  | "help", _ => some .help
  | "version", .program => some .version
  | "output", .subcommand .format => some .output
  | "compact", .subcommand .format => some .compact
  | "pretty", .subcommand .format => some .pretty
  | "root", .subcommand .check => some .root
  | "fail-fast", .subcommand .check => some .failFast
  | _, _ => none

/-- The option with the given letter. -/
def short? (part : Part) (letter : Char) : Option Argument :=
  match letter, part with
  | 'v', _ => some .verbose
  | 'h', _ => some .help
  | 'V', .program => some .version
  | 'o', .subcommand .format => some .output
  | _, _ => none

end Part

/-- What has been taken in of a part of the command line. -/
structure Scanner where
  part : Part
  /-- What was given, with values for what takes them. -/
  given : List (Argument × String)
  /-- What is still to be taken in, with the value it has so far. -/
  pending : Option (Argument × Option String)
  /-- Whether only input can follow. -/
  onlyInput : Bool
  /-- Whether the input was given. -/
  hasInput : Bool
deriving Repr

namespace Scanner

/-- The scanner at the start of a part. -/
def start (part : Part) : Scanner :=
  ⟨part, [], none, false, false⟩

/-- Whether the next argument is the value of an option. -/
def awaitsValue (s : Scanner) : Bool :=
  match s.pending with
  | some (_, none) => true
  | _ => false

/-- Takes in an argument. -/
def accept (s : Scanner) (a : Argument) (value : Option String) : Except UsageError Scanner :=
  if a = .help then .error .helpRequested
  else if a = .version then .error .versionRequested
  else if a.takesValue && value.isNone then .error .invalidValue
  else if (s.given.lookup a).isSome then .error .conflict
  else if a.takesValue && value = some "" then .error .invalidValue
  else .ok { s with given := s.given ++ [(a, value.getD "")] }

/-- Takes in what is pending. -/
def settle (s : Scanner) : Except UsageError Scanner :=
  match s.pending with
  | none => .ok s
  | some (a, value) => accept { s with pending := none } a value

/-- Takes in an option with the value attached to it, if it has one. -/
def option (s : Scanner) (a : Argument) (value : Option String) : Except UsageError Scanner := do
  let s ← s.settle
  if a.takesValue && value.isNone then
    return { s with pending := some (a, none) }
  else
    s.accept a value

/-- Takes in an option by its long name, with a value after `=` if there is one. -/
def long (s : Scanner) (name : List Char) (value : Option String) :
    Except UsageError Scanner :=
  match s.part.long? (String.ofList name) with
  | none => .error .unknownArgument
  | some a => if !a.takesValue && value.isSome then .error .valueOfFlag else s.option a value

/-- The value attached to a letter. -/
def attached : List Char → Option String
  | [] => none
  | '=' :: value => some (String.ofList value)
  | value => some (String.ofList value)

/-- Takes in options by their letters. -/
def short (s : Scanner) : List Char → Except UsageError Scanner
  | [] => .ok s
  | letter :: rest =>
    match s.part.short? letter with
    | none => .error .unknownArgument
    | some a =>
      if a.takesValue then
        s.option a (attached rest)
      else do
        short (← s.option a none) rest

/-- Takes in the input. A part with no place for it fails without taking in what is pending. -/
def input (s : Scanner) (text : String) : Except UsageError Scanner := do
  match s.part with
  | .program =>
    if s.onlyInput && (text = "help" || (Subcommand.ofName? text).isSome) then
      throw .unknownArgument
    else
      throw .invalidSubcommand
  | .subcommand _ =>
    if s.hasInput then
      throw .unknownArgument
    let s ← s.settle
    return { s with pending := some (.input, some text), hasInput := true }

/-- Takes in one argument that is not a subcommand. -/
def step (s : Scanner) (text : String) : Except UsageError Scanner :=
  if s.onlyInput then
    s.input text
  else
    match text.toList with
    | ['-', '-'] => .ok { s with onlyInput := true }
    | '-' :: '-' :: cs =>
      match cs.dropWhile (· != '=') with
      | [] => s.long cs none
      | _ :: value => s.long (cs.takeWhile (· != '=')) (some (String.ofList value))
    | '-' :: c :: cs => s.short (c :: cs)
    | _ =>
      match s.pending with
      | some (a, none) => .ok { s with pending := some (a, some text) }
      | _ => s.input text

/-- Takes in arguments. -/
def run (s : Scanner) : List String → Except UsageError Scanner
  | [] => .ok s
  | text :: rest => do run (← s.step text) rest

/-- The value of an argument. -/
def value? (s : Scanner) (a : Argument) : Option String :=
  s.given.lookup a

/-- Whether an argument was given. -/
def has (s : Scanner) (a : Argument) : Bool :=
  (s.value? a).isSome

end Scanner

/-- The arguments of the subcommand that writes an index back. -/
structure FormatArgs where
  input : String
  output : Option String
  compact : Bool
  pretty : Bool
deriving DecidableEq, Repr

/-- The arguments of the subcommand that checks sources. -/
structure CheckArgs where
  input : String
  root : Option String
  failFast : Bool
deriving DecidableEq, Repr

/-- What is to be done. -/
inductive Action where
  | format (args : FormatArgs)
  | check (args : CheckArgs)
deriving DecidableEq, Repr

/-- What a subcommand that was taken in asks for. -/
def Action.ofScanner (sub : Subcommand) (s : Scanner) : Except UsageError Action :=
  if s.has .compact && s.has .pretty then
    .error .conflict
  else
    match s.value? .input, sub with
    | none, _ => .error .missingInput
    | some input, .format =>
      .ok (.format ⟨input, s.value? .output, s.has .compact, s.has .pretty⟩)
    | some input, .check => .ok (.check ⟨input, s.value? .root, s.has .failFast⟩)

/-- What a command line asks for. -/
structure Invocation where
  config : Option String
  verbose : Bool
  action : Action
deriving DecidableEq, Repr

namespace Invocation

/-- Reads a subcommand and its arguments, after what was taken in before it. An option of the
program may be given on both sides, and then the later one counts. -/
def ofSubcommand (before : Scanner) (sub : Subcommand) (args : List String) :
    Except UsageError Invocation := do
  let s ← (Scanner.start (.subcommand sub)).run args
  let s ← s.settle
  let action ← Action.ofScanner sub s
  let before ← before.settle
  return ⟨(s.value? .config).or (before.value? .config), s.has .verbose || before.has .verbose,
    action⟩

/-- What asking for help on the given subcommands gives. -/
def help : List String → UsageError
  | [] => .helpRequested
  | [name] =>
    if name = "help" || (Subcommand.ofName? name).isSome then .helpRequested
    else .invalidSubcommand
  | _ => .invalidSubcommand

/-- Reads the rest of a command line. -/
def parseFrom (s : Scanner) : List String → Except UsageError Invocation
  | [] => do
    let s ← s.settle
    if s.given.isEmpty then throw .nothingGiven else throw .missingSubcommand
  | text :: rest =>
    if s.onlyInput || s.awaitsValue then do
      parseFrom (← s.step text) rest
    else if text = "help" then
      .error (help rest)
    else
      match Subcommand.ofName? text with
      | some sub => ofSubcommand s sub rest
      | none => do parseFrom (← s.step text) rest

/-- Reads a command line. -/
def parse (args : List String) : Except UsageError Invocation :=
  parseFrom (Scanner.start .program) args

end Invocation

end RangeIndex.Command
