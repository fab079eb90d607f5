import RangeIndex.Proofs.LineText
import RangeIndex.Proofs.Quoting

/-!
# Written fields

A line of written fields is one line of a text and gives the fields back (`split_undoes_join`). A
field is quoted only if it has to be (`quotes_only_where_needed`): the fields that stay as they are
are the ones that come back alone and unchanged if they are split as a line.

The second result is about lengths. A quoted field is longer by its two quotes, at least, than what
it stands for, so no text that starts like a quoted field stands for itself, whatever blanks or
comment come after it.
-/

namespace RangeIndex.Field

theorem split_quote (field : String) : split (quote field) = .ok [field] := by
  have hfield := splitFrom_field (isField_quote field) 0 (show separates [] from rfl)
  rw [List.append_nil, splitFrom_nil] at hfield
  exact hfield

theorem isLine_of_split {line : String} {values : List String} (h : split line = .ok values) :
    IsLine line.toList values := by
  rcases isLine_or_fails line.toList with ⟨values', hline⟩ | ⟨e, hfails⟩
  · rw [split_of_isLine hline] at h
    cases h
    exact hline
  · rw [split_of_fails hfails] at h
    cases h

/-! ## Lengths -/

theorem QuotedText.length_le {text value : List Char} (h : QuotedText text value) :
    value.length ≤ text.length := by
  induction h with
  | nil => simp
  | plain _ _ _ ih =>
    simp only [List.length_cons]
    omega
  | escape _ _ ih =>
    simp only [List.length_cons]
    omega

theorem utf8Size_of_mem_escapes {c d : Char} (h : (c, d) ∈ escapes) : d.utf8Size = 1 := by
  simp only [escapes, List.mem_cons, Prod.mk.injEq, List.not_mem_nil, or_false] at h
  rcases h with ⟨-, rfl⟩ | ⟨-, rfl⟩ | ⟨-, rfl⟩ | ⟨-, rfl⟩ | ⟨-, rfl⟩ <;> rfl

theorem QuotedText.byteLength_le {text value : List Char} (h : QuotedText text value) :
    byteLength value ≤ byteLength text := by
  induction h with
  | nil => simp
  | plain _ _ _ ih =>
    simp only [byteLength]
    omega
  | escape hc _ ih =>
    have hsize := utf8Size_of_mem_escapes hc
    rw [byteLength_escaped]
    simp only [byteLength]
    omega

theorem length_lt_quoted (cs : List Char) : cs.length < (quoted cs).length := by
  have hle := (quotedText_flatMap_escape cs).length_le
  simp only [quoted, List.length_cons, List.length_append]
  omega

theorem byteLength_lt_quoted (cs : List Char) : byteLength cs < byteLength (quoted cs) := by
  have hle := (quotedText_flatMap_escape cs).byteLength_le
  rw [quoted, byteLength_quoted]
  omega

/-! ## Fields that stand for themselves -/

theorem IsField.eq_or_length_lt {text : List Char} {value : String} (h : IsField text value) :
    (text = value.toList ∧ needsQuotes text = false) ∨ value.toList.length < text.length := by
  cases h with
  | bare hne hall hquote =>
    refine .inl ⟨by simp, ?_⟩
    unfold needsQuotes
    have hany : text.any (fun c => Text.isBlank c || c == '#') = false := by
      rw [List.any_eq_false]
      intro c hc
      simpa using hall c hc
    simp [hne, hquote, hany]
  | quoted htext =>
    have hle := htext.length_le
    simp only [String.toList_ofList, List.length_cons, List.length_append]
    omega

/-- A line with one field consists of that field and of what is before and after it. -/
theorem IsLine.exists_field {line : List Char} {value : String} (h : IsLine line [value]) :
    ∃ before text after, line = before ++ (text ++ after) ∧ IsField text value := by
  generalize hvalues : [value] = values at h
  cases h with
  | @blank start comment _ hstart _ =>
    obtain ⟨lead, fields, rfl, -, hfields⟩ := hstart
    subst hvalues
    cases hfields with
    | @cons text gap rest _ _ htext _ _ _ =>
      exact ⟨lead, text, gap ++ rest ++ comment, by simp, htext⟩
  | @field start text comment last values _ htext _ =>
    obtain ⟨rfl, rfl⟩ : values = [] ∧ last = value := by
      cases values <;> simp_all
    exact ⟨start, text, comment, rfl, htext⟩

theorem quote_of_needsQuotes {field : String} (h : needsQuotes field.toList = true) :
    quote field = String.ofList (quoted field.toList) :=
  if_pos h

theorem quote_of_not_needsQuotes {field : String} (h : needsQuotes field.toList = false) :
    quote field = field := by
  unfold quote
  rw [h]
  rfl

/-- The test for quotes is exact. -/
theorem split_eq_self_iff {field : String} :
    split field = .ok [field] ↔ needsQuotes field.toList = false := by
  constructor
  · intro h
    obtain ⟨before, text, after, hline, htext⟩ := (isLine_of_split h).exists_field
    rcases htext.eq_or_length_lt with ⟨rfl, hbare⟩ | hlt
    · exact hbare
    · -- The field is a part of the line, so it is not longer than what it stands for.
      have hlen := congrArg List.length hline
      simp only [List.length_append] at hlen
      omega
  · intro h
    have hsplit := split_quote field
    rwa [quote_of_not_needsQuotes h] at hsplit

theorem quote_longer {field : String} (h : needsQuotes field.toList = true) :
    field.length < (quote field).length ∧ field.utf8ByteSize < (quote field).utf8ByteSize := by
  have hlen := length_lt_quoted field.toList
  have hbytes := byteLength_lt_quoted field.toList
  rw [String.length_toList] at hlen
  rw [← utf8ByteSize_ofList, ← utf8ByteSize_ofList, String.ofList_toList] at hbytes
  rw [quote_of_needsQuotes h, String.length_ofList]
  exact ⟨hlen, hbytes⟩

/-! ## Reading what was written -/

/-- What is written for fields is a line of any text that goes on after it, and its fields are the
ones that it was written for. -/
theorem split_undoes_join (fields : List String) :
    split (join fields) = .ok fields ∧
      '\n' ∉ (join fields).toList ∧ '\r' ∉ (join fields).toList ∧
      ∀ rest, Text.lines (join fields ++ "\n" ++ rest) = join fields :: Text.lines rest := by
  refine ⟨splitFrom_join fields 0, fun h => (not_lineBreak_join h).1 rfl,
    fun h => (not_lineBreak_join h).2 rfl, fun rest => ?_⟩
  have hclosed : Text.isClosed (join fields ++ "\n").toList := by simp [Text.isClosed]
  rw [Text.lines_append hclosed, Text.lines_line fun _ hc => not_lineBreak_join hc]
  rfl

/-- A field is written as it is iff it is the only field of itself as a line. Otherwise it is
written in quotes, and takes more characters and more bytes then. -/
theorem quotes_only_where_needed (field : String) :
    (quote field = field ↔ split field = .ok [field]) ∧
      (split field ≠ .ok [field] →
        quote field = String.ofList (quoted field.toList) ∧
          field.length < (quote field).length ∧
          field.utf8ByteSize < (quote field).utf8ByteSize) := by
  cases hneeds : needsQuotes field.toList with
  | false =>
    have hsplit := split_eq_self_iff.2 hneeds
    exact ⟨iff_of_true (quote_of_not_needsQuotes hneeds) hsplit, fun h => absurd hsplit h⟩
  | true =>
    have hlonger := quote_longer hneeds
    have hquote : quote field ≠ field := by
      intro heq
      rw [heq] at hlonger
      omega
    have hsplit : split field ≠ .ok [field] := by
      rw [ne_eq, split_eq_self_iff, hneeds]
      simp
    exact ⟨iff_of_false hquote hsplit, fun _ => ⟨quote_of_needsQuotes hneeds, hlonger⟩⟩

/-- A text that looks like a quoted field with a comment after it is still written in quotes. -/
theorem quotes_only_where_needed_comment :
    split "\"a\" #" ≠ .ok ["\"a\" #"] ∧
      quote "\"a\" #" = "\"\\\"a\\\" #\"" ∧
      "\"a\" #".length < (quote "\"a\" #").length ∧
      "\"a\" #".utf8ByteSize < (quote "\"a\" #").utf8ByteSize := by
  have hsplit : split "\"a\" #" ≠ .ok ["\"a\" #"] := by
    rw [ne_eq, split_eq_self_iff]
    decide
  exact ⟨hsplit, (quotes_only_where_needed _).2 hsplit⟩

end RangeIndex.Field
