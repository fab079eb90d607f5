import Mathlib.Control.Monad.Basic
import RangeIndex.Proofs.WrittenFields

/-!
# What stands around a line

Blanks before a line and a comment behind it are no part of its fields. The grammar of lines is
closed under both: the place where a field can start may be followed by more blanks and fields
(`Opens.append`), so wherever a line ends, in a bare field, a quoted one, blanks or a comment, a gap
and a comment can follow (`IsLine.commented`).

Of the errors only the columns tell where a line starts. A bad field that stands further to the
right is bad in the same way (`IsBadField.shift`), so indentation moves the columns by its own bytes
(`split_indented`).
-/

namespace RangeIndex.Field

open RangeIndex.Text (isBlank)

/-- The error where the line that it is about stands `n` bytes further to the right. -/
def SplitError.shift (n : Nat) : SplitError → SplitError
  | .unterminatedQuote column => .unterminatedQuote (n + column)
  | .trailingAfterQuote column => .trailingAfterQuote (n + column)
  | .invalidEscape c => .invalidEscape c

/-! ## Indentation -/

theorem IsBadField.shift {opening : Nat} {text : List Char} {e : SplitError}
    (h : IsBadField opening text e) (n : Nat) : IsBadField (n + opening) text (e.shift n) := by
  cases h with
  | unterminated htext htail => exact .unterminated htext htail
  | invalidEscape htext hc => exact .invalidEscape htext hc
  | trailing htext hblank hhash =>
    rw [SplitError.shift, ← Nat.add_assoc]
    exact .trailing htext hblank hhash

theorem splitFrom_of_fails {line : List Char} {e : SplitError} (h : Fails line e) (column : Nat) :
    splitFrom column line = .error (e.shift column) := by
  obtain ⟨start, bad, values, rfl, hstart, hbad⟩ := h
  rw [utf8ByteSize_ofList] at hbad
  rw [splitFrom_opens hstart, splitFrom_isBadField (hbad.shift column)]
  rfl

/-- Indentation keeps the fields of a line, and moves the columns of its error. -/
theorem split_indented {indent : String} (h : AllBlank indent.toList) (line : String) :
    split (indent ++ line) = (split line).mapError (SplitError.shift indent.utf8ByteSize) := by
  have hsize : byteLength indent.toList = indent.utf8ByteSize := by
    rw [← utf8ByteSize_ofList, String.ofList_toList]
  have hline : split (indent ++ line) = splitFrom indent.utf8ByteSize line.toList := by
    rw [split, String.toList_append, splitFrom_blanks h, Nat.zero_add, hsize]
  rw [hline]
  rcases isLine_or_fails line.toList with ⟨values, hvalues⟩ | ⟨e, he⟩
  · rw [splitFrom_isLine hvalues, split_of_isLine hvalues]
    rfl
  · rw [splitFrom_of_fails he, split_of_fails he]
    rfl

/-! ## Comments -/

theorem Opens.blanks {gap start : List Char} {values : List String} (hgap : AllBlank gap)
    (h : Opens start values) : Opens (gap ++ start) values := by
  obtain ⟨lead, fields, rfl, hlead, hfields⟩ := h
  exact ⟨gap ++ lead, fields, (List.append_assoc ..).symm,
    List.forall_mem_append.2 ⟨hgap, hlead⟩, hfields⟩

theorem Fields.append {fields start : List Char} {values more : List String}
    (hfields : Fields fields values) (hstart : Opens start more) :
    Opens (fields ++ start) (values ++ more) := by
  induction hfields with
  | nil => exact hstart
  | cons htext hne hgap _ ih =>
    obtain ⟨c, gap, rfl⟩ := List.exists_cons_of_ne_nil hne
    obtain ⟨hc, hgap⟩ := List.forall_mem_cons.1 hgap
    rw [List.append_assoc, List.append_assoc, List.cons_append]
    exact .field htext hc (ih.blanks hgap)

theorem Opens.append {start start' : List Char} {values values' : List String}
    (h : Opens start values) (h' : Opens start' values') :
    Opens (start ++ start') (values ++ values') := by
  obtain ⟨lead, fields, rfl, hlead, hfields⟩ := h
  rw [List.append_assoc]
  exact (hfields.append h').blanks hlead

/-- A line goes on with a gap and a comment behind its last field, or inside of its comment. -/
theorem IsLine.commented {line gap : List Char} {values : List String} (h : IsLine line values)
    (hne : gap ≠ []) (hgap : AllBlank gap) (comment : List Char) :
    IsLine (line ++ (gap ++ '#' :: comment)) values := by
  have hopens : Opens gap [] := by
    simpa using Opens.nil.blanks hgap
  have hends : Ends ('#' :: comment) := .inr rfl
  cases h with
  | @blank start ending values hstart hending =>
    rcases hending with rfl | hhash
    · have hline := IsLine.blank (hstart.append hopens) hends
      simpa using hline
    · rw [List.append_assoc]
      exact .blank hstart (.inr (by simp [hhash]))
  | @field start text ending value values hstart htext hending =>
    rcases hending with rfl | hhash
    · have hfield := (Fields.cons htext hne hgap .nil).append Opens.nil
      have hline := IsLine.blank (hstart.append hfield) hends
      simpa using hline
    · rw [List.append_assoc, List.append_assoc]
      exact .field hstart htext (.inr (by simp [hhash]))

/-! ## Layout -/

/-- Blanks before a line, and blanks and a comment behind it, leave its fields as they are, and
blanks before a line that cannot be split add their bytes to the column of its error. -/
theorem split_ignores_layout {indent : String} (hindent : AllBlank indent.toList) (line : String) :
    (∀ fields gap comment, split line = .ok fields → gap ≠ "" → AllBlank gap.toList →
        split (indent ++ line ++ gap ++ "#" ++ comment) = .ok fields) ∧
      ∀ e, split line = .error e →
        split (indent ++ line) = .error (e.shift indent.utf8ByteSize) := by
  constructor
  · intro fields gap comment hline hne hgap
    have hne' : gap.toList ≠ [] := fun hnil => hne (by simpa using hnil)
    have hcommented : split (line ++ (gap ++ ("#" ++ comment))) = .ok fields := by
      apply split_of_isLine
      simpa using (isLine_of_split hline).commented hne' hgap comment.toList
    rw [String.append_assoc, String.append_assoc, String.append_assoc, split_indented hindent,
      hcommented]
    rfl
  · intro e he
    rw [split_indented hindent, he]
    rfl

theorem split_ignores_layout_quoted :
    AllBlank "\u3000\t".toList ∧
      split "class \"a # b\"" = .ok ["class", "a # b"] ∧
      split ("\u3000\t" ++ "class \"a # b\"" ++ " " ++ "#" ++ " \"c") = .ok ["class", "a # b"] ∧
      split "class \"abc" = .error (.unterminatedQuote 6) ∧
      split ("\u3000\t" ++ "class \"abc") = .error (.unterminatedQuote 10) := by
  have hindent : AllBlank "\u3000\t".toList := by simp [AllBlank, isBlank]
  have hline : split "class \"a # b\"" = .ok ["class", "a # b"] := by decide +kernel
  have hbad : split "class \"abc" = .error (.unterminatedQuote 6) := by decide +kernel
  refine ⟨hindent, hline, ?_, hbad, ?_⟩
  · have hgap : AllBlank " ".toList := by simp [AllBlank, isBlank]
    exact (split_ignores_layout hindent _).1 _ " " " \"c" hline (by decide) hgap
  · exact (split_ignores_layout hindent _).2 _ hbad

end RangeIndex.Field
