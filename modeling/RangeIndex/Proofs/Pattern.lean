import RangeIndex.Text.Affix

/-!
# Patterns with groups

Regular expressions whose groups remember what they matched. There may be several ways to match a
pattern at one place, and `results` lists all of them in the order in which they are preferred: the
left alternative before the right one, an optional part before nothing, and the repetitions of a
character from the longest one down if they are greedy, from the shortest one up if they are lazy.
A search takes the first of them at the leftmost place that has any (`captures`).
-/

namespace RangeIndex

open RangeIndex.Text (afterChars?)

namespace Pattern

/-- What one character has to be. -/
inductive CharClass where
  /-- From the first given character to the last one. -/
  | range (first last : Char)
  /-- Anything but a line feed. -/
  | dot
deriving DecidableEq, Repr

def CharClass.holds : CharClass → Char → Bool
  | .range first last, c => first ≤ c && c ≤ last
  | .dot, c => c != '\n'

/-- Which repetitions are preferred. -/
inductive Greed where
  | greedy
  | lazy
deriving DecidableEq, Repr

end Pattern

open Pattern in
/-- A regular expression. -/
inductive Pattern where
  /-- The start of the text, `^`. -/
  | start
  /-- The end of the text, `$`. -/
  | stop
  /-- The given characters. -/
  | text (s : String)
  /-- One character. -/
  | one (c : CharClass)
  /-- Any number of characters, `*` or `*?`. -/
  | many (c : CharClass) (greed : Greed)
  /-- A pattern and then another one. -/
  | seq (p q : Pattern)
  /-- One pattern or the other, `|`. -/
  | alt (p q : Pattern)
  /-- A pattern or nothing, `?`. -/
  | optional (p : Pattern)
  /-- A group with its number. -/
  | group (n : Nat) (p : Pattern)
deriving DecidableEq, Repr

namespace Pattern

/-- The groups that were closed, the last one first, each with its number and the places where it
starts and stops. -/
abbrev Spans := List (Nat × Nat × Nat)

/-- Where a match stands: the number of characters behind, the characters ahead, and the groups. -/
structure Cursor where
  position : Nat
  ahead : List Char
  groups : Spans
deriving DecidableEq, Repr

/-- Closes a group that started at the given place. -/
def Cursor.close (c : Cursor) (n start : Nat) : Cursor :=
  { c with groups := (n, start, c.position) :: c.groups }

/-- The repetitions of a character from a place on, in the order of preference. -/
def runs (cls : CharClass) (greed : Greed) (groups : Spans) : Nat → List Char → List Cursor
  | position, [] => [⟨position, [], groups⟩]
  | position, c :: ahead =>
    let here : Cursor := ⟨position, c :: ahead, groups⟩
    let longer := if cls.holds c then runs cls greed groups (position + 1) ahead else []
    match greed with
    | .greedy => longer ++ [here]
    | .lazy => here :: longer

/-- Where the matches of a pattern from a place on end, in the order of preference. -/
def results : Pattern → Cursor → List Cursor
  | .start, c => if c.position = 0 then [c] else []
  | .stop, c => if c.ahead = [] then [c] else []
  | .text s, c =>
    match afterChars? s.toList c.ahead with
    | some ahead => [⟨c.position + s.toList.length, ahead, c.groups⟩]
    | none => []
  | .one cls, c =>
    match c.ahead with
    | a :: ahead => if cls.holds a then [⟨c.position + 1, ahead, c.groups⟩] else []
    | [] => []
  | .many cls greed, c => runs cls greed c.groups c.position c.ahead
  | .seq p q, c => (results p c).flatMap fun d => results q d
  | .alt p q, c => results p c ++ results q c
  | .optional p, c => results p c ++ [c]
  | .group n p, c => (results p c).map fun d => d.close n c.position

/-- The preferred match of a pattern from a place on. -/
def first? (p : Pattern) (c : Cursor) : Option Cursor :=
  (p.results c).head?

/-- The groups of a match, and the text that they are parts of. -/
structure Groups where
  text : List Char
  spans : Spans
deriving DecidableEq, Repr

/-- The part of the text that a group matched, if it took part in the match. -/
def Groups.get? (groups : Groups) (n : Nat) : Option (List Char) :=
  (groups.spans.lookup n).map fun (i, j) => (groups.text.drop i).take (j - i)

/-- The groups of the preferred match at the leftmost place of a text that has one. -/
def captures (p : Pattern) (text : List Char) : Option Groups :=
  (List.range (text.length + 1)).findSome? fun start =>
    (p.first? ⟨start, text.drop start, []⟩).map fun c => ⟨text, c.groups⟩

/-! ## Preferred matches -/

/-- The first part of a sequence gives way until the second one matches. -/
theorem first?_seq (p q : Pattern) (c : Cursor) :
    (seq p q).first? c = (p.results c).findSome? q.first? :=
  List.head?_flatMap

/-- A greedy repetition goes on before it tries what follows. -/
theorem findSome?_greedy_cons {α : Type} (cls : CharClass) (groups : Spans) (position : Nat)
    (c : Char) (ahead : List Char) (next : Cursor → Option α) :
    (runs cls .greedy groups position (c :: ahead)).findSome? next =
      (if cls.holds c then (runs cls .greedy groups (position + 1) ahead).findSome? next
        else none).or (next ⟨position, c :: ahead, groups⟩) := by
  rw [runs, List.findSome?_append, List.findSome?_singleton]
  cases cls.holds c <;> rfl

/-- A lazy repetition tries what follows before it goes on. -/
theorem findSome?_lazy_cons {α : Type} (cls : CharClass) (groups : Spans) (position : Nat)
    (c : Char) (ahead : List Char) (next : Cursor → Option α) :
    (runs cls .lazy groups position (c :: ahead)).findSome? next =
      (next ⟨position, c :: ahead, groups⟩).or
        (if cls.holds c then (runs cls .lazy groups (position + 1) ahead).findSome? next
          else none) := by
  rw [runs, List.findSome?_cons]
  cases next ⟨position, c :: ahead, groups⟩ <;> cases cls.holds c <;> rfl

theorem first?_stop (c : Cursor) : stop.first? c = if c.ahead = [] then some c else none := by
  rw [first?, results]
  split <;> rfl

/-- A pattern that has to match at the start of a text is tried nowhere else. -/
theorem captures_start (p : Pattern) (text : List Char) :
    (seq start p).captures text = (p.first? ⟨0, text, []⟩).map fun c => ⟨text, c.groups⟩ := by
  have hhere : (seq .start p).first? ⟨0, text, []⟩ = p.first? ⟨0, text, []⟩ := by
    simp [first?_seq, results]
  have hlater (i : Nat) : (seq .start p).first? ⟨i + 1, text.drop (i + 1), []⟩ = none := by
    simp [first?_seq, results]
  rw [captures, List.range_succ_eq_map, List.findSome?_cons, List.drop_zero, hhere]
  cases p.first? ⟨0, text, []⟩ with
  | none => simp [hlater]
  | some c => rfl

end Pattern

end RangeIndex
