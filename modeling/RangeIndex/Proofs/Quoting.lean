import RangeIndex.Field.Quote
import RangeIndex.Proofs.FieldGrammar
import RangeIndex.Proofs.Outcomes
import RangeIndex.Text.Lines

/-!
# Written fields read back

What `quote` writes is a field of the grammar, with the value that it was written for
(`isField_quote`), so it is split off where a blank, a comment or nothing follows it. Whole lines
follow: `join` is undone by `split` after any indentation, and it writes no line break.

A line that can be split has the same fields without a carriage return at its end
(`split_dropLineEnd`), so it does not matter whether its line end is there yet.
-/

namespace RangeIndex.Field

open RangeIndex.Text (isBlank)

/-! ## Fields -/

theorem quotedText_escape (c : Char) {text value : List Char} (h : QuotedText text value) :
    QuotedText (escape c ++ text) (c :: value) := by
  unfold escape
  split
  case h_6 hq hb _ _ _ => exact .plain hq hb h
  all_goals exact .escape (by simp [escapes]) h

theorem quotedText_flatMap_escape (cs : List Char) : QuotedText (cs.flatMap escape) cs := by
  induction cs with
  | nil => exact .nil
  | cons c cs ih =>
    rw [List.flatMap_cons]
    exact quotedText_escape c ih

/-- A field that needs no quotes is a bare one. -/
theorem needsQuotes_eq_false {cs : List Char} (h : needsQuotes cs = false) :
    ∃ c ds, cs = c :: ds ∧ c ≠ '"' ∧ ∀ a ∈ cs, isBare a := by
  cases cs with
  | nil => simp [needsQuotes] at h
  | cons c ds =>
    simp only [needsQuotes, List.isEmpty_cons, List.head?_cons, Bool.or_eq_false_iff,
      beq_eq_false_iff_ne, ne_eq, Option.some.injEq, List.any_eq_false] at h
    obtain ⟨⟨-, hq⟩, hall⟩ := h
    refine ⟨c, ds, rfl, hq, fun a ha => ?_⟩
    simpa [isBare] using hall a ha

/-- What is written for a field is a field with its value. -/
theorem isField_quote (field : String) : IsField (quote field).toList field := by
  unfold quote
  split
  · rw [String.toList_ofList, quoted]
    have h := IsField.quoted (quotedText_flatMap_escape field.toList)
    rwa [String.ofList_toList] at h
  · rename_i hn
    obtain ⟨c, ds, hcs, hq, hall⟩ := needsQuotes_eq_false (by simpa using hn)
    have hbare : ∀ a ∈ field.toList, isBlank a = false ∧ a ≠ '#' := fun a ha => by
      simpa [isBare] using hall a ha
    have h := IsField.bare (by simp [hcs]) hbare (by simp [hcs, hq])
    rwa [String.ofList_toList] at h

/-! ## Lines of fields -/

theorem join_cons_cons (f g : String) (fs : List String) :
    (join (f :: g :: fs)).toList = (quote f).toList ++ ' ' :: (join (g :: fs)).toList := by
  simp [join, String.intercalate_cons_cons]

theorem splitFrom_join :
    ∀ (fields : List String) (column : Nat), splitFrom column (join fields).toList = .ok fields
  | [], column => by simp [join, splitFrom_nil]
  | [f], column => by
    have h := splitFrom_field (isField_quote f) column (show separates [] from rfl)
    rw [splitFrom_nil, List.append_nil] at h
    simpa [join, Except.map] using h
  | f :: g :: fs, column => by
    rw [join_cons_cons, splitFrom_field (isField_quote f) column rfl, splitFrom_blank (by decide),
      splitFrom_join (g :: fs)]
    rfl

theorem allBlank_spaces (n : Nat) : AllBlank (List.replicate n ' ') := by
  intro c hc
  rw [List.eq_of_mem_replicate hc]
  rfl

theorem not_lineBreak_escape {a c : Char} (h : a ∈ escape c) : a ≠ '\n' ∧ a ≠ '\r' := by
  unfold escape at h
  split at h
  case h_6 hn hr _ =>
    simp only [List.mem_singleton] at h
    exact h ▸ ⟨hn, hr⟩
  all_goals
    simp only [List.mem_cons, List.not_mem_nil, or_false] at h
    rcases h with rfl | rfl <;> decide

theorem not_lineBreak_quote {a : Char} {field : String} (h : a ∈ (quote field).toList) :
    a ≠ '\n' ∧ a ≠ '\r' := by
  unfold quote at h
  split at h
  · simp only [String.toList_ofList, quoted, List.mem_cons, List.mem_append, List.mem_flatMap,
      List.not_mem_nil, or_false] at h
    rcases h with rfl | ⟨c, -, hc⟩ | rfl
    · decide
    · exact not_lineBreak_escape hc
    · decide
  · rename_i hn
    obtain ⟨_, _, -, -, hall⟩ := needsQuotes_eq_false (by simpa using hn)
    have ha := hall a h
    exact ⟨by rintro rfl; exact absurd ha (by decide), by rintro rfl; exact absurd ha (by decide)⟩

/-- What `join` writes stays on one line. -/
theorem not_lineBreak_join :
    ∀ {fields : List String} {a : Char}, a ∈ (join fields).toList → a ≠ '\n' ∧ a ≠ '\r'
  | [], a, h => by simp [join] at h
  | [f], a, h => @not_lineBreak_quote a f (by simpa [join] using h)
  | f :: g :: fs, a, h => by
    rw [join_cons_cons, List.mem_append, List.mem_cons] at h
    rcases h with h | rfl | h
    · exact not_lineBreak_quote h
    · decide
    · exact not_lineBreak_join h

/-! ## Carriage returns at the end of a line -/

/-- Inside quotes a carriage return at the end of a line is text, so a quoted field that is closed
is closed before it. -/
theorem scanQuoted_of_concat {opening column : Nat} {cs : List Char} {q : Quoted}
    (h : scanQuoted opening column (cs ++ ['\r']) = .ok q) :
    ∃ rest, q.rest = rest ++ ['\r'] ∧
      scanQuoted opening column cs = .ok ⟨q.value, q.column, rest⟩ := by
  fun_induction scanQuoted opening column cs generalizing q with
  | case1 => cases h
  | case2 column rest =>
    cases h
    exact ⟨rest, rfl, rfl⟩
  | case3 => cases h
  | case4 column c rest hc =>
    simp [scanQuoted, hc] at h
  | case5 column c rest d hd ih =>
    simp only [List.cons_append, scanQuoted, hd] at h
    obtain ⟨r, hr, rfl⟩ := map_eq_ok_iff.1 h
    obtain ⟨tail, htail, hscan⟩ := ih hr
    exact ⟨tail, htail, by rw [hscan]; rfl⟩
  | case6 column c rest hq hb hesc ih =>
    have hb' : c ≠ '\\' := by
      rintro rfl
      cases rest with
      | nil => exact hb rfl rfl
      | cons d rest => exact hesc d rest rfl rfl
    rw [List.cons_append, scanQuoted_plain hq hb'] at h
    obtain ⟨r, hr, rfl⟩ := map_eq_ok_iff.1 h
    obtain ⟨tail, htail, hscan⟩ := ih hr
    exact ⟨tail, htail, by rw [hscan]; rfl⟩

theorem takeWhile_isBare_concat (cs : List Char) :
    (cs ++ ['\r']).takeWhile isBare = cs.takeWhile isBare := by
  induction cs with
  | nil => rfl
  | cons c cs ih => simp only [List.cons_append, List.takeWhile_cons, ih]

theorem dropWhile_isBare_concat (cs : List Char) :
    (cs ++ ['\r']).dropWhile isBare = cs.dropWhile isBare ++ ['\r'] := by
  induction cs with
  | nil => rfl
  | cons c cs ih =>
    simp only [List.cons_append, List.dropWhile_cons, ih]
    split <;> rfl

/-- A carriage return at the end of a line that can be split is blank. -/
theorem splitFrom_of_concat :
    ∀ {cs : List Char} {column : Nat} {fields : List String},
      splitFrom column (cs ++ ['\r']) = .ok fields → splitFrom column cs = .ok fields
  | [], column, fields, h => by
    rw [List.nil_append, splitFrom_blank (by decide), splitFrom_nil] at h
    rwa [splitFrom_nil]
  | c :: rest, column, fields, h => by
    rw [List.cons_append] at h
    by_cases hb : isBlank c
    · rw [splitFrom_blank hb] at h ⊢
      exact splitFrom_of_concat h
    by_cases hc : c = '#'
    · subst hc
      rwa [splitFrom_comment] at h ⊢
    by_cases hq : c = '"'
    · subst hq
      rw [splitFrom_opening] at h ⊢
      rcases hscan : scanQuoted column (column + 1) (rest ++ ['\r']) with e | q <;>
        simp only [hscan] at h
      · cases h
      obtain ⟨tail, htail, hscan'⟩ := scanQuoted_of_concat hscan
      -- What follows the quoted field is shorter, for the recursion to end.
      have hlt : tail.length < rest.length := length_rest_scanQuoted hscan'
      rw [htail] at h
      split at h
      · rename_i hsep
        have hsep' : separates tail := by
          cases tail with
          | nil => rfl
          | cons d tail => exact hsep
        obtain ⟨fs, hr, rfl⟩ := map_eq_ok_iff.1 h
        simp only [hscan', hsep', ↓reduceIte]
        rw [splitFrom_of_concat hr]
        rfl
      · cases h
    · have hbare : isBare c := by simp [isBare, hb, hc]
      have hlt := (List.dropWhile_suffix isBare (l := rest)).length_le
      rw [splitFrom_bare hbare hq, takeWhile_isBare_concat, dropWhile_isBare_concat] at h
      obtain ⟨fs, hr, rfl⟩ := map_eq_ok_iff.1 h
      rw [splitFrom_bare hbare hq, splitFrom_of_concat hr]
      rfl
termination_by cs => cs.length

theorem split_dropLineEnd {line : String} {fields : List String} (h : split line = .ok fields) :
    split (String.ofList (Text.dropLineEnd line.toList)) = .ok fields := by
  unfold Text.dropLineEnd
  split
  · rename_i hlast
    obtain ⟨init, hinit⟩ := List.getLast?_eq_some_iff.1 hlast
    rw [split, hinit] at h
    rw [split, String.toList_ofList, hinit, List.dropLast_concat]
    exact splitFrom_of_concat h
  · rwa [String.ofList_toList]

end RangeIndex.Field
