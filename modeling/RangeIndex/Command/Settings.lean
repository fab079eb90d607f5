import RangeIndex.Toml.Parser

/-!
# Settings

What a TOML document can set: how an index is written, and where and how sources are checked. The
tables of a document may also be given as arrays of their members in order. A member that is
unknown or of the wrong type makes the document invalid.
-/

namespace RangeIndex.Command

open RangeIndex.Toml (Value Entries)

/-- The settings of a run. -/
structure Settings where
  /-- Whether an index is written indented and with comments. -/
  pretty : Bool
  /-- The directory that the names of indexed files are relative to. -/
  root : Option String
  /-- Whether a check stops at the first file that is not fresh. -/
  failFast : Bool
deriving DecidableEq, Repr

namespace Settings

/-- The settings where nothing is set. -/
def default : Settings := ⟨true, none, false⟩

/-- The members of a table with the given names. A table has no other members; an array holds the
members in order. -/
def members? (names : List String) : Value → Option (List (Option Value))
  | .table _ entries =>
    if entries.all fun e => names.contains e.1 then some (names.map fun n => entries.lookup n)
    else none
  | .array items => some (names.mapIdx fun i _ => items[i]?)
  | .tables items => some (names.mapIdx fun i _ => items[i]?.map (.table .header))
  | _ => none

/-- A member that has to be a boolean, if it is there. -/
def boolean? (default : Bool) : Option Value → Option Bool
  | none => some default
  | some (.boolean b) => some b
  | some _ => none

/-- A member that has to be a string, if it is there. -/
def string? : Option Value → Option (Option String)
  | none => some none
  | some (.string s) => some (some s)
  | some _ => none

/-- Sets what the table for writing an index sets. -/
def withOutput? (s : Settings) (value : Value) : Option Settings := do
  match ← members? ["pretty"] value with
  | [pretty] => return { s with pretty := ← boolean? s.pretty pretty }
  | _ => none

/-- Sets what the table for checking sources sets. -/
def withCheck? (s : Settings) (value : Value) : Option Settings := do
  match ← members? ["root", "fail_fast"] value with
  | [root, failFast] =>
    return { s with root := ← string? root, failFast := ← boolean? s.failFast failFast }
  | _ => none

/-- Sets what an entry of a document sets. -/
def withEntry? (s : Settings) (entry : String × Value) : Option Settings :=
  match entry.1 with
  | "output" => s.withOutput? entry.2
  | "check" => s.withCheck? entry.2
  | _ => none

/-- The settings that a document makes. -/
def parse? (text : String) : Option Settings := do
  (← Toml.parse? text).foldlM withEntry? default

end Settings

end RangeIndex.Command
