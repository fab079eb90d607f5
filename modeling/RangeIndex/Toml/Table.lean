/-!
# TOML documents

The values of a TOML document, and how its statements build a table.

A table may be filled in several places, but only as long as it stays clear where it was defined: a
header defines a table once, after which dotted keys cannot add to it from outside, a table made by
dotted keys has no header, and an inline table is complete where it stands.
-/

namespace RangeIndex.Toml

/-- How a table came about. -/
inductive Origin where
  /-- Written in place. -/
  | inline
  /-- Defined by a header. -/
  | header
  /-- Made on the way to a table that a longer header defines. -/
  | implied
  /-- Made by a dotted key. -/
  | dotted
deriving DecidableEq, Repr

/-- A value of a document. Of numbers and of dates and times only the text is kept. -/
inductive Value where
  | string (value : String)
  | boolean (value : Bool)
  | number (text : String)
  | moment (text : String)
  | array (items : List Value)
  | table (origin : Origin) (entries : List (String × Value))
  /-- The tables that repeated array headers define. -/
  | tables (items : List (List (String × Value)))
deriving Repr, Inhabited

/-- The entries of a table in the order in which they were made. -/
abbrev Entries := List (String × Value)

/-- A statement of a document. -/
inductive Statement where
  | assign (key : List String) (value : Value)
  | header (key : List String)
  | arrayHeader (key : List String)

namespace Entries

/-- Replaces the value under a key, or adds it at the end. -/
def set (key : String) (value : Value) : Entries → Entries
  | [] => [(key, value)]
  | e :: rest => if e.1 = key then (key, value) :: rest else e :: set key value rest

/-- Assigns a value under a dotted key. The key has to be new, and only tables that dotted keys
made can be added to. -/
def assign (value : Value) : List String → Entries → Option Entries
  | [], _ => none
  | [key], entries =>
    match entries.lookup key with
    | none => some (set key value entries)
    | some _ => none
  | key :: path, entries =>
    match entries.lookup key with
    | none => do return set key (.table .dotted (← assign value path [])) entries
    | some (.table .dotted inner) => do
      return set key (.table .dotted (← assign value path inner)) entries
    | some _ => none

/-- Changes the table that a header path leads to. Of an array of tables the last one is meant, and
tables on the way are made as needed. -/
def modifyAt (f : Entries → Option Entries) : List String → Entries → Option Entries
  | [], entries => f entries
  | key :: path, entries =>
    match entries.lookup key with
    | none => do return set key (.table .implied (← modifyAt f path [])) entries
    | some (.table origin inner) =>
      if origin = .inline then none
      else do return set key (.table origin (← modifyAt f path inner)) entries
    | some (.tables items) =>
      match items.getLast? with
      | none => none
      | some last => do
        return set key (.tables (items.dropLast ++ [← modifyAt f path last])) entries
    | some _ => none

/-- Defines the table of a header. -/
def define (key : String) (entries : Entries) : Option Entries :=
  match entries.lookup key with
  | none => some (set key (.table .header []) entries)
  | some (.table .implied inner) => some (set key (.table .header inner) entries)
  | some _ => none

/-- Adds a table to the array of an array header. -/
def extend (key : String) (entries : Entries) : Option Entries :=
  match entries.lookup key with
  | none => some (set key (.tables [[]]) entries)
  | some (.tables items) => some (set key (.tables (items ++ [[]])) entries)
  | some _ => none

/-- Applies a function to the path without its last key, and to that key. -/
def splitLast {α : Type} (f : List String → String → Option α) (path : List String) : Option α :=
  match path.getLast? with
  | some key => f path.dropLast key
  | none => none

/-- The table that statements build, where `current` is the path of the last header. -/
def build (current : List String) (entries : Entries) : List Statement → Option Entries
  | [] => some entries
  | .assign key value :: rest => do
    build current (← modifyAt (assign value key) current entries) rest
  | .header path :: rest => do
    build path (← splitLast (fun parents key => modifyAt (define key) parents entries) path) rest
  | .arrayHeader path :: rest => do
    build path (← splitLast (fun parents key => modifyAt (extend key) parents entries) path) rest

end Entries

end RangeIndex.Toml
