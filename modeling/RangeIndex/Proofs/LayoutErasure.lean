import RangeIndex.Proofs.LayoutText

/-!
# Erasing the layout of a text

In the pretty style a text has comment lines and indentation, in the compact style neither.
`eraseLayout` takes both out of a text, by its characters alone: lines whose first character other
than a space is `#`, and then the spaces at the start of each line. What is left of a pretty text is
the compact one.

A comment is gone as a whole because it stays on its line, whatever is in it. A record stays because
no field is written with `#` or a space at its start (`head?_join`).
-/

namespace RangeIndex

namespace Text

def unindent (line : List Char) : List Char :=
  line.dropWhile (· == ' ')

/-- Whether the first character of a line that is no space is `#`. -/
def isComment (line : List Char) : Bool :=
  (unindent line).head? == some '#'

/-- The lines that are no comments, without the spaces before them. -/
def eraseLines (lines : List (List Char)) : List (List Char) :=
  (lines.filter fun line => !isComment line).map unindent

/-- A text without its comment lines and without the spaces at the start of its lines. -/
def eraseLayout (text : String) : String :=
  String.ofList (['\n'].intercalate (eraseLines (text.toList.splitOn '\n')))

theorem unindent_replicate {cs : List Char} (h : cs.head? ≠ some ' ') (n : Nat) :
    unindent (List.replicate n ' ' ++ cs) = cs := by
  unfold unindent
  rw [List.dropWhile_append_of_pos (by simp)]
  cases cs with
  | nil => rfl
  | cons c cs =>
    have hc : c ≠ ' ' := fun hc => h (by simp [hc])
    simp [hc]

theorem ofLines_eq_intercalate (ls : List (List Char)) :
    ofLines ls = ['\n'].intercalate (ls ++ [[]]) := by
  induction ls with
  | nil => simp [ofLines]
  | cons l ls ih =>
    have hne : ls ++ [[]] ≠ [] := by simp
    obtain ⟨k, ks, hk⟩ := List.exists_cons_of_ne_nil hne
    rw [List.cons_append, hk, List.intercalate_cons_cons, ← hk, ← ih]
    simp [ofLines]

/-- A text of lines is split into these, and nothing is left after its last line end. -/
theorem splitOn_ofLines {ls : List (List Char)} (h : ∀ l ∈ ls, '\n' ∉ l) :
    (ofLines ls).splitOn '\n' = ls ++ [[]] := by
  rw [ofLines_eq_intercalate]
  refine List.splitOn_intercalate '\n' (fun l hl => ?_) (by simp)
  rcases List.mem_append.1 hl with hl | hl
  · exact h l hl
  · simp only [List.mem_singleton] at hl
    simp [hl]

end Text

/-! ## Fields -/

theorem Field.IsField.head? {text : List Char} {value : String} (h : Field.IsField text value) :
    ∃ c, text.head? = some c ∧ c ≠ ' ' ∧ c ≠ '#' := by
  cases h with
  | bare hne hall _ =>
    obtain ⟨c, cs, rfl⟩ := List.exists_cons_of_ne_nil hne
    obtain ⟨hblank, hhash⟩ := hall c (by simp)
    refine ⟨c, rfl, ?_, hhash⟩
    rintro rfl
    exact absurd hblank (by decide)
  | quoted _ => exact ⟨'"', rfl, by decide, by decide⟩

theorem Field.head?_join (fields : List String) :
    (Field.join fields).toList.head? ≠ some ' ' ∧ (Field.join fields).toList.head? ≠ some '#' := by
  rcases fields with _ | ⟨f, _ | ⟨g, fs⟩⟩
  · simp [Field.join]
  · obtain ⟨c, hc, hspace, hhash⟩ := (Field.isField_quote f).head?
    simp [Field.join, hc, hspace, hhash]
  · obtain ⟨c, hc, hspace, hhash⟩ := (Field.isField_quote f).head?
    rw [Field.join_cons_cons, List.head?_append, hc]
    simp [hspace, hhash]

namespace Layout

/-! ## Lines -/

theorem unindent_record (depth : Nat) (fields : List String) :
    Text.unindent (indent depth ++ (Field.join fields).toList) = (Field.join fields).toList :=
  Text.unindent_replicate (Field.head?_join fields).1 _

theorem isComment_record (depth : Nat) (fields : List String) :
    Text.isComment (indent depth ++ (Field.join fields).toList) = false := by
  rw [Text.isComment, unindent_record]
  simpa using (Field.head?_join fields).2

theorem isComment_comment (depth : Nat) (text : List Char) :
    Text.isComment (indent depth ++ '#' :: text) = true := by
  rw [Text.isComment, indent, Text.unindent_replicate (by simp)]
  rfl

/-- Erasing leaves of a line what the compact style writes, whatever its style. -/
theorem erase_body (style : Style) (line : Line) :
    ((line.body style).filter fun cs => !Text.isComment cs).map Text.unindent =
      line.body .compact := by
  have hrecord (depth : Nat) (fields : List String) :
      ((some (indent depth ++ (Field.join fields).toList)).filter fun cs =>
        !Text.isComment cs).map Text.unindent = some (Field.join fields).toList := by
    simp only [Option.filter_some, isComment_record, Bool.not_false, if_true, Option.map_some,
      unindent_record]
  cases line with
  | record depth fields =>
    cases style with
    | pretty => exact hrecord depth fields
    | compact => exact hrecord 0 fields
  | comment depth text => cases style <;> simp [Line.body, isComment_comment]

theorem eraseLines_body (style : Style) (lines : List Line) :
    Text.eraseLines (lines.filterMap (Line.body style)) =
      lines.filterMap (Line.body .compact) := by
  rw [Text.eraseLines, List.filter_filterMap, List.map_filterMap]
  simp only [erase_body]

theorem splitOn_toText (style : Style) (f : FileIndex) :
    (f.toText style).toList.splitOn '\n' =
      (ofFile f).filterMap (Line.body style) ++ [[]] := by
  rw [FileIndex.toText, String.toList_ofList, flatMap_render, Text.splitOn_ofLines]
  intro l hl hfeed
  obtain ⟨line, -, hline⟩ := List.mem_filterMap.1 hl
  exact (not_lineBreak_body hline _ hfeed).1 rfl

end Layout

/-- The compact text of a file is its pretty text without comment lines and indentation, line by
line and so as a whole. -/
theorem compact_eq_erased (f : FileIndex) :
    (f.toText .compact).toList.splitOn '\n' =
      Text.eraseLines ((f.toText .pretty).toList.splitOn '\n') ∧
    f.toText .compact = Text.eraseLayout (f.toText .pretty) := by
  have hlines : (f.toText .compact).toList.splitOn '\n' =
      Text.eraseLines ((f.toText .pretty).toList.splitOn '\n') := by
    have hlast : Text.eraseLines [[]] = [[]] := rfl
    rw [Layout.splitOn_toText, Layout.splitOn_toText, Text.eraseLines, List.filter_append,
      List.map_append, ← Text.eraseLines, ← Text.eraseLines, Layout.eraseLines_body, hlast]
  refine ⟨hlines, ?_⟩
  rw [Text.eraseLayout, ← hlines, List.intercalate_splitOn, String.ofList_toList]

end RangeIndex
