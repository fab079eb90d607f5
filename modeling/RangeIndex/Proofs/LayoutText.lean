import RangeIndex.Index.Layout
import RangeIndex.Proofs.LineText
import RangeIndex.Proofs.Quoting

/-!
# The lines of a written index

What a layout is made of, apart from depth and comments: the records of a file's block are its
`start` line, its links, its declarations and occurrences as `weave` merges them, and its `end` line
(`fields_ofFile`). Merging loses neither an occurrence nor a declaration.

A written text has the lines of its layout and no other (`lines_writeAll`), since no line of it
holds a line break. Such a line splits into the fields of its record, a comment into none
(`split_body`), in either style.
-/

namespace RangeIndex.Layout

open RangeIndex.Text (writeNumeral)

/-! ## Records -/

/-- The fields that a line has, if it is not blank. -/
def Line.fields? : Line → Option (List String)
  | .record _ (head :: fields) => some (head :: fields)
  | _ => none

/-- The fields of an item's record. -/
def Item.fields : Item → List String
  | .declaration d => d.kind.token :: d.write
  | .occurrence o => o.kind.token :: o.write

/-- The occurrence among items, if this is one. -/
def Item.occurrence? : Item → Option Occurrence
  | .occurrence o => some o
  | .declaration _ => none

/-- The declaration among items, if this is one. -/
def Item.declaration? : Item → Option Declaration
  | .declaration d => some d
  | .occurrence _ => none

section Items

variable {item : Item} (d : Declaration) (o : Occurrence)

@[simp]
theorem Item.occurrence?_declaration : (Item.declaration d).occurrence? = none := rfl

@[simp]
theorem Item.occurrence?_occurrence : (Item.occurrence o).occurrence? = some o := rfl

@[simp]
theorem Item.declaration?_declaration : (Item.declaration d).declaration? = some d := rfl

@[simp]
theorem Item.declaration?_occurrence : (Item.occurrence o).declaration? = none := rfl

variable {d o}

theorem Item.occurrence?_eq_some_iff : item.occurrence? = some o ↔ item = .occurrence o := by
  cases item <;> simp

theorem Item.declaration?_eq_some_iff : item.declaration? = some d ↔ item = .declaration d := by
  cases item <;> simp

end Items

theorem fields_closeUntil (pos : UInt32) (opened : List Declaration) :
    (closeUntil pos opened).1.filterMap Line.fields? = [] := by
  induction opened with
  | nil => rfl
  | cons d outer ih =>
    rw [closeUntil]
    split
    · simpa [closing, Line.fields?] using ih
    · rfl

theorem fields_closeAll (opened : List Declaration) :
    (closeAll opened).filterMap Line.fields? = [] := by
  induction opened with
  | nil => rfl
  | cons d outer ih => simpa [closeAll, closing, Line.fields?] using ih

theorem fields_nest :
    ∀ (items : List Item) (opened : List Declaration),
      (nest opened items).filterMap Line.fields? = items.map Item.fields
  | [], opened => fields_closeAll opened
  | .declaration d :: items, opened => by
    rw [nest, List.filterMap_append, fields_closeUntil]
    simp [List.filterMap_cons, Line.fields?, Item.fields, fields_nest items]
  | .occurrence o :: items, opened => by
    rw [nest, List.filterMap_append, fields_closeUntil]
    simp [Line.fields?, Item.fields, fields_nest items]

theorem fields_linkLines (links : List AccessorLink) :
    (linkLines links).filterMap Line.fields? =
      links.map fun l => "meta" :: AccessorLink.token :: l.write := by
  unfold linkLines
  split
  · rename_i h
    simp [List.isEmpty_iff.1 h]
  · simp [List.filterMap_cons, Line.fields?, List.filterMap_map, Function.comp_def]

/-- The records of a file's block in order. -/
theorem fields_ofFile (f : FileIndex) :
    (ofFile f).filterMap Line.fields? =
      ["start", writeNumeral formatVersion, f.filename, f.hash] ::
        ((f.links.map fun l => "meta" :: AccessorLink.token :: l.write) ++
          (weave f.occurrences f.declarations).map Item.fields ++ [["end"]]) := by
  simp [ofFile, Line.fields?, fields_linkLines, fields_nest]

theorem occurrences_weave (os : List Occurrence) (ds : List Declaration) :
    (weave os ds).filterMap Item.occurrence? = os := by
  fun_induction weave os ds with
  | case1 ds => simp [List.filterMap_map, Function.comp_def]
  | case2 os => simp [List.filterMap_map, Function.comp_def]
  | case3 o os d ds _ ih => simpa [List.filterMap_cons] using ih
  | case4 o os d ds _ ih => simpa [List.filterMap_cons] using ih

theorem declarations_weave (os : List Occurrence) (ds : List Declaration) :
    (weave os ds).filterMap Item.declaration? = ds := by
  fun_induction weave os ds with
  | case1 ds => simp [List.filterMap_map, Function.comp_def]
  | case2 os => simp [List.filterMap_map, Function.comp_def]
  | case3 o os d ds _ ih => simpa [List.filterMap_cons] using ih
  | case4 o os d ds _ ih => simpa [List.filterMap_cons] using ih

/-! ## Lines of text -/

/-- A line as it is written, without its line end, if it is written in the given style. -/
def Line.body (style : Style) (line : Line) : Option (List Char) :=
  match style, line with
  | .pretty, .record depth fields => some (indent depth ++ (Field.join fields).toList)
  | .pretty, .comment depth text =>
    some (indent depth ++ '#' :: ' ' :: text.toList.flatMap commentChar)
  | .compact, .record _ fields => some (Field.join fields).toList
  | .compact, .comment _ _ => none

theorem render_eq (style : Style) (line : Line) :
    line.render style = Text.ofLines (line.body style).toList := by
  cases style <;> cases line <;> simp [Line.render, Line.body, Text.ofLines]

theorem flatMap_render (style : Style) (lines : List Line) :
    lines.flatMap (Line.render style) = Text.ofLines (lines.filterMap (Line.body style)) := by
  induction lines with
  | nil => rfl
  | cons line lines ih =>
    rw [List.flatMap_cons, ih, render_eq, List.filterMap_cons]
    cases line.body style <;> simp [Text.ofLines]

theorem not_lineBreak_indent {depth : Nat} {a : Char} (h : a ∈ indent depth) :
    a ≠ '\n' ∧ a ≠ '\r' := by
  rw [List.eq_of_mem_replicate h]
  decide

theorem not_lineBreak_commentChar {a c : Char} (h : a ∈ commentChar c) : a ≠ '\n' ∧ a ≠ '\r' := by
  unfold commentChar at h
  split at h
  case h_3 hn hr =>
    simp only [List.mem_singleton] at h
    exact h ▸ ⟨hn, hr⟩
  all_goals
    simp only [List.mem_cons, List.not_mem_nil, or_false] at h
    rcases h with rfl | rfl <;> decide

/-- A written line holds no line break. -/
theorem not_lineBreak_body {style : Style} {line : Line} {cs : List Char}
    (h : line.body style = some cs) : ∀ a ∈ cs, a ≠ '\n' ∧ a ≠ '\r' := by
  intro a ha
  cases style <;> cases line <;> simp only [Line.body, Option.some.injEq, reduceCtorEq] at h <;>
    subst h
  · rcases List.mem_append.1 ha with ha | ha
    · exact not_lineBreak_indent ha
    · exact Field.not_lineBreak_join ha
  · rcases List.mem_append.1 ha with ha | ha
    · exact not_lineBreak_indent ha
    · simp only [List.mem_cons, List.mem_flatMap] at ha
      rcases ha with rfl | rfl | ⟨c, -, hc⟩
      · decide
      · decide
      · exact not_lineBreak_commentChar hc
  · exact Field.not_lineBreak_join ha

/-- A written text has the lines of its layout. -/
theorem lines_writeAll (style : Style) (files : List FileIndex) :
    Text.lines (writeAll style files) =
      ((files.flatMap ofFile).filterMap (Line.body style)).map String.ofList := by
  have htext : (writeAll style files).toList =
      Text.ofLines ((files.flatMap ofFile).filterMap (Line.body style)) := by
    rw [← flatMap_render]
    simp [writeAll, FileIndex.toText, String.toList_join, List.flatMap_map, List.flatMap_assoc]
  rw [Text.lines, htext, Text.linesFrom_ofLines]
  intro cs hcs
  obtain ⟨line, -, hline⟩ := List.mem_filterMap.1 hcs
  exact not_lineBreak_body hline

/-- A written line splits into the fields of its record. -/
theorem split_body {style : Style} {line : Line} {cs : List Char} (h : line.body style = some cs) :
    Field.split (String.ofList cs) = .ok (line.fields?.getD []) := by
  have hfields (depth : Nat) (fields : List String) :
      (Line.record depth fields).fields?.getD [] = fields := by
    cases fields <;> rfl
  rw [Field.split, String.toList_ofList]
  cases style <;> cases line <;> simp only [Line.body, Option.some.injEq, reduceCtorEq] at h <;>
    subst h
  · rw [indent, Field.splitFrom_blanks (Field.allBlank_spaces _), Field.splitFrom_join, hfields]
  · rw [indent, Field.splitFrom_blanks (Field.allBlank_spaces _), Field.splitFrom_comment]
    rfl
  · rw [Field.splitFrom_join, hfields]

end RangeIndex.Layout
