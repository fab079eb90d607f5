/-!
# Scanning TOML text

A scan takes something off the front of a text or fails. Blanks are spaces and tabs, a line ends
with a line feed that a carriage return may precede, and a comment runs from `#` to the end of its
line.
-/

namespace RangeIndex.Toml

/-- Takes something off the front of a text. -/
abbrev Scan := StateT (List Char) Option

namespace Scan

/-- The next character, which stays where it is. -/
def peek? : Scan (Option Char) := do
  return (← get).head?

/-- Takes the given character. -/
def char (c : Char) : Scan Unit := fun cs =>
  match cs with
  | d :: rest => if d = c then some ((), rest) else none
  | [] => none

/-- Takes any character. -/
def any : Scan Char := fun cs =>
  match cs with
  | c :: rest => some (c, rest)
  | [] => none

/-- Takes characters as long as they satisfy `p`. -/
def takeWhile (p : Char → Bool) : Scan (List Char) := fun cs =>
  some (cs.takeWhile p, cs.dropWhile p)

/-- Succeeds if the condition holds. -/
def require (b : Bool) : Scan Unit := fun cs =>
  if b then some ((), cs) else none

/-- Takes what `s` takes, or nothing. -/
def optional {α : Type} (s : Scan α) : Scan (Option α) := fun cs =>
  match s cs with
  | some (a, rest) => some (some a, rest)
  | none => some (none, cs)

/-- What is taken together with its text. -/
def withText {α : Type} (s : Scan α) : Scan (α × String) := fun cs =>
  match s cs with
  | some (a, rest) => some ((a, String.ofList (cs.take (cs.length - rest.length))), rest)
  | none => none

end Scan

/-- Whether a character is a space or a tab. -/
def isBlank (c : Char) : Bool :=
  c = ' ' || c = '\t'

/-- Whether a character may stand in comments and strings. -/
def isText (c : Char) : Bool :=
  c = '\t' || (0x20 ≤ c.toNat && c.toNat ≠ 0x7F)

/-- Takes blanks. -/
def blanks : Scan Unit := do
  let _ ← Scan.takeWhile isBlank

/-- Takes the end of a line. -/
def lineEnd : Scan Unit := fun cs =>
  match cs with
  | '\n' :: rest => some ((), rest)
  | '\r' :: '\n' :: rest => some ((), rest)
  | _ => none

/-- Takes a comment, if there is one, up to the end of the line. -/
def comment : Scan Unit := do
  if (← Scan.peek?) = some '#' then
    let _ ← Scan.takeWhile isText

/-- Takes blanks and a comment, then the end of the line or of the text. -/
def endOfStatement : Scan Unit := do
  blanks
  comment
  if (← get).isEmpty then
    return
  lineEnd

/-- Takes blanks, comments and line ends, as many as `limit` lines. -/
def blankLines (limit : Nat) : Scan Unit := do
  match limit with
  | 0 => pure ()
  | limit + 1 =>
    blanks
    comment
    if (← Scan.optional lineEnd).isSome then
      blankLines limit

end RangeIndex.Toml
