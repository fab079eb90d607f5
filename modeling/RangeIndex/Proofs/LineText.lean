import RangeIndex.Text.Lines

/-!
# Texts made of lines

A text made of lines that hold no line break, each with a line feed after it, has just these lines
(`linesFrom_ofLines`). Two texts joined where a line ends have the lines of the first and then those
of the second (`lines_append`). `takeLines` cuts a text after its first lines, `appendLine` adds one
line at the end, and closes the line before it if that was still open.
-/

namespace RangeIndex.Text

@[simp]
theorem linesFrom_feed (line rest : List Char) :
    linesFrom line ('\n' :: rest) = dropLineEnd line.reverse :: linesFrom [] rest := rfl

theorem linesFrom_char {c : Char} (h : c ≠ '\n') (line rest : List Char) :
    linesFrom line (c :: rest) = linesFrom (c :: line) rest := by
  rw [linesFrom.eq_def]
  split <;> simp_all

theorem dropLineEnd_of_not_mem {line : List Char} (h : '\r' ∉ line) : dropLineEnd line = line := by
  unfold dropLineEnd
  split
  · rename_i hlast
    exact absurd (List.mem_of_getLast? hlast) h
  · rfl

theorem linesFrom_chars {xs : List Char} (h : '\n' ∉ xs) (line rest : List Char) :
    linesFrom line (xs ++ rest) = linesFrom (xs.reverse ++ line) rest := by
  induction xs generalizing line with
  | nil => rfl
  | cons x xs ih =>
    have hx : x ≠ '\n' := fun hx => h (by simp [hx])
    have hxs : '\n' ∉ xs := fun hxs => h (List.mem_cons_of_mem x hxs)
    rw [List.cons_append, linesFrom_char hx, ih hxs]
    simp

/-- The text of lines, each with its line end. -/
def ofLines (ls : List (List Char)) : List Char :=
  ls.flatMap (· ++ ['\n'])

theorem linesFrom_ofLines :
    ∀ {ls : List (List Char)}, (∀ l ∈ ls, ∀ c ∈ l, c ≠ '\n' ∧ c ≠ '\r') →
      linesFrom [] (ofLines ls) = ls
  | [], _ => rfl
  | l :: ls, h => by
    have hn : '\n' ∉ l := fun hc => (h l (by simp) _ hc).1 rfl
    have hr : '\r' ∉ l := fun hc => (h l (by simp) _ hc).2 rfl
    have ih : linesFrom [] (ofLines ls) = ls :=
      linesFrom_ofLines fun k hk => h k (List.mem_cons_of_mem l hk)
    simp only [ofLines, List.flatMap_cons, List.append_assoc, List.singleton_append] at ih ⊢
    rw [linesFrom_chars hn, linesFrom_feed, ih]
    simp [dropLineEnd_of_not_mem hr]

/-! ## Cutting and joining texts -/

/-- Whether a text is empty or its last line has a line end. -/
def isClosed (text : List Char) : Bool :=
  text.getLast?.all (· == '\n')

theorem isClosed_cons {c : Char} {rest : List Char} (h : isClosed (c :: rest)) :
    rest = [] ∧ c = '\n' ∨ rest ≠ [] ∧ isClosed rest := by
  cases rest with
  | nil => exact .inl ⟨rfl, by simpa [isClosed] using h⟩
  | cons d rest => exact .inr ⟨by simp, by simpa [isClosed, List.getLast?_cons_cons] using h⟩

theorem linesFrom_append :
    ∀ {xs : List Char} (line ys : List Char), isClosed xs → (xs = [] → line = []) →
      linesFrom line (xs ++ ys) = linesFrom line xs ++ linesFrom [] ys
  | [], line, ys, _, h => by simp [linesFrom, h rfl]
  | x :: xs, line, ys, hx, _ => by
    by_cases hf : x = '\n'
    · subst hf
      have hxs : isClosed xs := by
        rcases isClosed_cons hx with ⟨rfl, -⟩ | ⟨-, hxs⟩
        · rfl
        · exact hxs
      simp only [List.cons_append, linesFrom_feed]
      rw [linesFrom_append [] ys hxs fun _ => rfl]
    · rcases isClosed_cons hx with ⟨-, rfl⟩ | ⟨hne, hxs⟩
      · exact absurd rfl hf
      · rw [List.cons_append, linesFrom_char hf, linesFrom_char hf,
          linesFrom_append (x :: line) ys hxs fun h => absurd h hne]

/-- Texts joined at a line end have the lines of both. -/
theorem lines_append {a : String} (h : isClosed a.toList) (b : String) :
    lines (a ++ b) = lines a ++ lines b := by
  simp only [lines, String.toList_append]
  rw [linesFrom_append [] b.toList h fun _ => rfl, List.map_append]

/-- The first lines of a text, with their line ends. -/
def takeLinesFrom : Nat → List Char → List Char
  | 0, _ => []
  | _ + 1, [] => []
  | n + 1, c :: rest => c :: if c = '\n' then takeLinesFrom n rest else takeLinesFrom (n + 1) rest

/-- The text of the first `n` lines of a text. -/
def takeLines (n : Nat) (text : String) : String :=
  String.ofList (takeLinesFrom n text.toList)

theorem linesFrom_takeLinesFrom :
    ∀ (n : Nat) (xs line : List Char), (n = 0 → line = []) →
      linesFrom line (takeLinesFrom n xs) = (linesFrom line xs).take n
  | 0, xs, line, h => by simp [takeLinesFrom, linesFrom, h rfl]
  | n + 1, [], line, _ => by
    simp only [takeLinesFrom, linesFrom]
    split <;> simp
  | n + 1, x :: xs, line, _ => by
    by_cases hx : x = '\n'
    · subst hx
      simp only [takeLinesFrom, ↓reduceIte, linesFrom_feed, List.take_succ_cons]
      rw [linesFrom_takeLinesFrom n xs [] fun _ => rfl]
    · simp only [takeLinesFrom, hx, ↓reduceIte]
      rw [linesFrom_char hx, linesFrom_char hx,
        linesFrom_takeLinesFrom (n + 1) xs (x :: line) (by simp)]

theorem lines_takeLines (n : Nat) (text : String) :
    lines (takeLines n text) = (lines text).take n := by
  simp only [lines, takeLines, String.toList_ofList]
  rw [linesFrom_takeLinesFrom n text.toList [] fun _ => rfl, List.map_take]

/-! ## One more line -/

/-- A text with the line `line` added at its end. -/
def appendLine (text line : String) : String :=
  if isClosed text.toList then text ++ line ++ "\n" else text ++ "\n" ++ line ++ "\n"

/-- Closing an open line takes a carriage return off its end and leaves all other lines. -/
theorem linesFrom_close :
    ∀ {xs line : List Char}, isClosed xs = false ∨ xs = [] ∧ line ≠ [] →
      ∃ init last, linesFrom line xs = init ++ [last] ∧
        linesFrom line (xs ++ ['\n']) = init ++ [dropLineEnd last]
  | [], line, h => by
    have hl : line ≠ [] := by
      rcases h with h | ⟨-, h⟩
      · exact absurd h (by decide)
      · exact h
    exact ⟨[], line.reverse, by simp [linesFrom, hl], rfl⟩
  | x :: xs, line, h => by
    have hopen : isClosed (x :: xs) = false := by
      rcases h with h | ⟨h, -⟩
      · exact h
      · simp at h
    have hxs : xs ≠ [] → isClosed xs = false := by
      intro hne
      cases xs with
      | nil => exact absurd rfl hne
      | cons y ys => simpa [isClosed, List.getLast?_cons_cons] using hopen
    by_cases hf : x = '\n'
    · subst hf
      have hne : xs ≠ [] := by
        rintro rfl
        exact absurd hopen (by decide)
      obtain ⟨init, last, h1, h2⟩ := @linesFrom_close xs [] (.inl (hxs hne))
      refine ⟨dropLineEnd line.reverse :: init, last, ?_, ?_⟩
      · simp [h1]
      · simp [h2]
    · have hstep : isClosed xs = false ∨ xs = [] ∧ x :: line ≠ [] := by
        by_cases hne : xs = []
        · exact .inr ⟨hne, by simp⟩
        · exact .inl (hxs hne)
      obtain ⟨init, last, h1, h2⟩ := linesFrom_close hstep
      refine ⟨init, last, ?_, ?_⟩
      · rw [linesFrom_char hf, h1]
      · rw [List.cons_append, linesFrom_char hf, h2]

theorem lines_line {line : String} (h : ∀ c ∈ line.toList, c ≠ '\n' ∧ c ≠ '\r') :
    lines (line ++ "\n") = [line] := by
  have hl := @linesFrom_ofLines [line.toList] (by simpa using h)
  simp only [ofLines, List.flatMap_cons, List.flatMap_nil, List.append_nil] at hl
  simp [lines, hl]

/-- The lines of a text with one more line: the text's own lines, the last of them without a
carriage return that now belongs to its line end, and the new one. -/
theorem lines_appendLine (text : String) {line : String}
    (h : ∀ c ∈ line.toList, c ≠ '\n' ∧ c ≠ '\r') :
    lines (appendLine text line) = lines text ++ [line] ∨
      ∃ init last, lines text = init ++ [last] ∧
        lines (appendLine text line) = init ++ [String.ofList (dropLineEnd last.toList), line] := by
  unfold appendLine
  split
  · rename_i hc
    left
    rw [String.append_assoc, lines_append hc, lines_line h]
  · rename_i hc
    right
    obtain ⟨init, last, h1, h2⟩ := @linesFrom_close text.toList [] (.inl (by simpa using hc))
    refine ⟨init.map String.ofList, String.ofList last, by simp [lines, h1], ?_⟩
    have hclosed : isClosed (text ++ "\n").toList := by simp [isClosed]
    rw [String.append_assoc, lines_append hclosed, lines_line h]
    simp [lines, h2]

end RangeIndex.Text
