import RangeIndex.Text.Blank

/-!
# Splitting a line into fields

A line is a sequence of fields separated by blanks, and a comment from `#` to the end may follow.
A field is bare, and then runs up to the next blank or `#`, or it stands between double quotes,
where five escapes write a quote, a backslash, a line feed, a carriage return and a tab. Inside
quotes `#` is text.

`split` gives the values of the fields in order. It fails at the first quoted field that is not
well formed; the columns in its errors count bytes of the line's UTF-8 form.
-/

namespace RangeIndex.Field

open RangeIndex.Text (isBlank)

/-- What is wrong with a quoted field. -/
inductive SplitError where
  /-- The line ends inside the field that the quote at `column` opens. -/
  | unterminatedQuote (column : Nat)
  /-- A character that neither separates fields nor starts a comment follows a closing quote. -/
  | trailingAfterQuote (column : Nat)
  /-- A backslash stands before a character that it does not escape. -/
  | invalidEscape (char : Char)
deriving DecidableEq, Repr

/-- The character that a backslash before `c` writes. -/
def unescape? (c : Char) : Option Char :=
  match c with
  | '"' => some '"'
  | '\\' => some '\\'
  | 'n' => some '\n'
  | 'r' => some '\r'
  | 't' => some '\t'
  | _ => none

/-- Whether `c` can stand in a bare field after its first character. -/
def isBare (c : Char) : Bool :=
  !isBlank c && c != '#'

/-- The number of bytes of a text in UTF-8. -/
def byteLength : List Char → Nat
  | [] => 0
  | c :: cs => c.utf8Size + byteLength cs

/-- The rest of a line after a quoted field, and the column where it starts. -/
structure Quoted where
  value : List Char
  column : Nat
  rest : List Char

/-- Reads a quoted field whose opening quote stands at `opening`, from the character after that
quote, at `column`, to the closing quote. -/
def scanQuoted (opening column : Nat) : List Char → Except SplitError Quoted
  | [] => .error (.unterminatedQuote opening)
  | '"' :: rest => .ok ⟨[], column + 1, rest⟩
  | ['\\'] => .error (.unterminatedQuote opening)
  | '\\' :: c :: rest =>
    match unescape? c with
    | none => .error (.invalidEscape c)
    | some d =>
      (scanQuoted opening (column + 1 + c.utf8Size) rest).map fun q =>
        { q with value := d :: q.value }
  | c :: rest =>
    (scanQuoted opening (column + c.utf8Size) rest).map fun q => { q with value := c :: q.value }

theorem length_rest_scanQuoted {opening column : Nat} {cs : List Char} {q : Quoted}
    (h : scanQuoted opening column cs = .ok q) : q.rest.length < cs.length := by
  fun_induction scanQuoted opening column cs generalizing q with
  | case1 => simp at h
  | case2 => cases h; simp
  | case3 => simp at h
  | case4 => simp at h
  | case5 column c rest d _ ih =>
    cases hr : scanQuoted opening (column + 1 + c.utf8Size) rest with
    | error e => simp [hr, Except.map] at h
    | ok r => simp [hr, Except.map] at h; subst h; have := ih hr; simp; omega
  | case6 column c rest _ _ _ ih =>
    cases hr : scanQuoted opening (column + c.utf8Size) rest with
    | error e => simp [hr, Except.map] at h
    | ok r => simp [hr, Except.map] at h; subst h; have := ih hr; simp; omega

/-- Whether a text can directly follow a closing quote. -/
def separates : List Char → Bool
  | [] => true
  | c :: _ => isBlank c || c == '#'

/-- The fields of the rest of a line that starts at `column`. -/
def splitFrom (column : Nat) : List Char → Except SplitError (List String)
  | [] => .ok []
  | c :: rest =>
    if isBlank c then
      splitFrom (column + c.utf8Size) rest
    else if c = '#' then
      .ok []
    else if c = '"' then
      match _h : scanQuoted column (column + 1) rest with
      | .error e => .error e
      | .ok q =>
        if separates q.rest then
          (splitFrom q.column q.rest).map (String.ofList q.value :: ·)
        else
          .error (.trailingAfterQuote q.column)
    else
      let bare := c :: rest.takeWhile isBare
      (splitFrom (column + byteLength bare) (rest.dropWhile isBare)).map (String.ofList bare :: ·)
termination_by cs => cs.length
decreasing_by
  · simp
  · have := length_rest_scanQuoted _h; simp; omega
  · have := (List.dropWhile_suffix isBare (l := rest)).length_le; simp; omega

/-- The fields of a line, without its comment. -/
def split (line : String) : Except SplitError (List String) :=
  splitFrom 0 line.toList

end RangeIndex.Field
