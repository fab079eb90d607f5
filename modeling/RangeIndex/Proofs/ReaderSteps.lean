import Mathlib.Tactic.SplitIfs
import RangeIndex.Index.Reader
import RangeIndex.Proofs.Outcomes

/-!
# The reader line by line

`Step` lists what a line that fits does to the reader: a blank line counts, a `start` line opens a
block, a record goes into the open block, an `end` line files the block. `step_eq_ok_iff` says that
`Reader.step` succeeds on a line in these ways only, `step_eq_error` in which ways it fails.

`after` is the reader once some lines are read. A run that fails stops at one line, the lines before
it being read (`after_eq_error`).
-/

namespace RangeIndex.Reader

/-- What the fields of a line that fits do to the reader. -/
inductive Step (r : Reader) : List String → Reader → Prop
  | blank : Step r [] { r with line := r.line + 1 }
  | start {version filename hash : String} : r.block = none →
      Text.readNumeral? version = some formatVersion →
      Step r ["start", version, filename, hash]
        { r with line := r.line + 1, block := some ⟨r.line + 1, ⟨filename, hash, [], [], []⟩⟩ }
  | record {head : String} {fields : List String} {block : Block} {entry : Entry} :
      head ≠ "start" → head ≠ "end" → r.block = some block → Entry.read head fields = .ok entry →
      Step r (head :: fields)
        { r with line := r.line + 1, block := some ⟨block.line, block.file.push entry⟩ }
  | finish {block : Block} : r.block = some block →
      Step r ["end"] ⟨r.line + 1, r.index.add block.file, none, r.events ++
        if r.index.contains block.file.filename then
          [.duplicateBlock block.file.filename (r.line + 1)] else []⟩

theorem start_eq_ok {r r' : Reader} {raw : String} {fields : List String}
    (h : r.start (r.line + 1) raw fields = .ok r') : Step r ("start" :: fields) r' := by
  unfold start at h
  split at h
  · cases h
  · rename_i hb
    split at h
    · cases h
    · rename_i block hs
      cases h
      unfold Block.start at hs
      split at hs
      · rename_i version filename hash
        simp only [Block.readVersion, bind, Except.bind] at hs
        split_ifs at hs with hv
        cases hs
        exact .start hb hv
      · cases hs

theorem finishBlock_eq_ok {r r' : Reader} {raw : String} {fields : List String}
    (h : r.finishBlock (r.line + 1) raw fields = .ok r') : Step r ("end" :: fields) r' := by
  unfold finishBlock at h
  split at h
  · cases h
  · rename_i block hb
    split at h
    · rename_i hf
      cases h
      rw [List.isEmpty_iff.1 hf]
      exact .finish hb
    · cases h

theorem push_eq_ok {r r' : Reader} {raw head : String} {fields : List String}
    (hs : head ≠ "start") (he : head ≠ "end")
    (h : r.push (r.line + 1) raw head fields = .ok r') : Step r (head :: fields) r' := by
  unfold push at h
  split at h
  · cases h
  · rename_i block hb
    split at h
    · cases h
    · rename_i entry hr
      cases h
      exact .record hs he hb hr

/-- A line is taken in exactly if it can be split and its fields fit. -/
theorem step_eq_ok_iff {r r' : Reader} {raw : String} :
    r.step raw = .ok r' ↔ ∃ fields, Field.split raw = .ok fields ∧ Step r fields r' := by
  constructor
  · intro h
    unfold step at h
    simp only [] at h
    split at h
    · cases h
    · rename_i hf
      cases h
      exact ⟨[], hf, .blank⟩
    · rename_i head fields hf
      refine ⟨head :: fields, hf, ?_⟩
      split_ifs at h with hs he
      · exact hs ▸ start_eq_ok h
      · exact he ▸ finishBlock_eq_ok h
      · exact push_eq_ok hs he h
  · rintro ⟨fields, hf, hstep⟩
    cases hstep with
    | blank => simp [step, hf]
    | start hb hv =>
      simp [step, hf, start, hb, Block.start, Block.readVersion, hv, bind, Except.bind, pure,
        Except.pure]
    | record hs he hb hr => simp [step, hf, hs, he, push, hb, hr]
    | finish hb => simp [step, hf, finishBlock, hb]

/-- Only the fields of a line that fits matter. -/
theorem step_congr {r r' : Reader} {raw raw' : String} (h : r.step raw = .ok r')
    (hf : ∀ fields, Field.split raw = .ok fields → Field.split raw' = .ok fields) :
    r.step raw' = .ok r' := by
  obtain ⟨fields, hraw, hstep⟩ := step_eq_ok_iff.1 h
  exact step_eq_ok_iff.2 ⟨fields, hf fields hraw, hstep⟩

/-- The errors of a line: each names the line, and the ones about its text hold that text. A block
that is still open is named by the line where it starts. -/
inductive StepError (r : Reader) (raw : String) : ReadError → Prop
  | line (cause : RecordError) : StepError r raw (.malformedLine (r.line + 1) raw cause)
  | missingEnd {block : Block} : r.block = some block →
      StepError r raw (.malformedBlock (r.line + 1) (.missingEnd block.line))
  | strayEnd : r.block = none → StepError r raw (.malformedBlock (r.line + 1) .strayEnd)
  | outsideBlock : r.block = none → StepError r raw (.malformedBlock (r.line + 1) .outsideBlock)

theorem step_eq_error {r : Reader} {raw : String} {e : ReadError} (h : r.step raw = .error e) :
    StepError r raw e := by
  unfold step at h
  simp only [] at h
  split at h
  · cases h
    exact .line _
  · cases h
  · split_ifs at h
    · unfold start at h
      split at h
      · rename_i block hb
        cases h
        exact .missingEnd hb
      · split at h
        · cases h
          exact .line _
        · cases h
    · unfold finishBlock at h
      split at h
      · rename_i hb
        cases h
        exact .strayEnd hb
      · split at h
        · cases h
        · cases h
          exact .line _
    · unfold push at h
      split at h
      · rename_i hb
        cases h
        exact .outsideBlock hb
      · split at h
        · cases h
          exact .line _
        · cases h

theorem Step.line {r r' : Reader} {fields : List String} (h : Step r fields r') :
    r'.line = r.line + 1 := by
  cases h <;> rfl

/-! ## Many lines -/

/-- The reader after the lines `raws`. -/
def after (r : Reader) (raws : List String) : Except ReadError Reader :=
  raws.foldlM step r

theorem after_cons_eq_ok {r r' : Reader} {raw : String} {raws : List String} :
    r.after (raw :: raws) = .ok r' ↔ ∃ s, r.step raw = .ok s ∧ s.after raws = .ok r' := by
  simp only [after, List.foldlM_cons, bind_eq_ok_iff]

theorem after_append_eq_ok {r r' : Reader} {as bs : List String} :
    r.after (as ++ bs) = .ok r' ↔ ∃ s, r.after as = .ok s ∧ s.after bs = .ok r' := by
  simp only [after, List.foldlM_append, bind_eq_ok_iff]

theorem after_cons_eq_error {r : Reader} {raw : String} {raws : List String} {e : ReadError} :
    r.after (raw :: raws) = .error e ↔
      r.step raw = .error e ∨ ∃ s, r.step raw = .ok s ∧ s.after raws = .error e := by
  simp only [after, List.foldlM_cons, bind_eq_error_iff]

theorem after_append_of_error {r : Reader} {as : List String} {e : ReadError}
    (h : r.after as = .error e) (bs : List String) : r.after (as ++ bs) = .error e := by
  simp only [after, List.foldlM_append] at h ⊢
  exact bind_eq_error_iff.2 (.inl h)

theorem after_concat {r s : Reader} {raws : List String} (h : r.after raws = .ok s)
    (raw : String) : r.after (raws ++ [raw]) = s.step raw := by
  simp only [after, List.foldlM_append, List.foldlM_cons, List.foldlM_nil] at h ⊢
  rw [h]
  cases hs : s.step raw <;> simp [hs, bind, Except.bind, pure, Except.pure]

/-- A failing run has read some lines and fails at the next one. -/
theorem after_eq_error :
    ∀ {raws : List String} {r : Reader} {e : ReadError}, r.after raws = .error e →
      ∃ before raw rest s, raws = before ++ raw :: rest ∧ r.after before = .ok s ∧
        s.step raw = .error e
  | [], r, e, h => by cases h
  | raw :: raws, r, e, h => by
    rcases after_cons_eq_error.1 h with hs | ⟨s, hs, h⟩
    · exact ⟨[], raw, raws, r, rfl, rfl, hs⟩
    · obtain ⟨before, raw', rest, t, rfl, hbefore, ht⟩ := after_eq_error h
      exact ⟨raw :: before, raw', rest, t, rfl, after_cons_eq_ok.2 ⟨s, hs, hbefore⟩, ht⟩

theorem line_of_after :
    ∀ {raws : List String} {r r' : Reader}, r.after raws = .ok r' →
      r'.line = r.line + raws.length
  | [], r, r', h => by
    cases h
    rfl
  | raw :: raws, r, r', h => by
    obtain ⟨s, hs, hr⟩ := after_cons_eq_ok.1 h
    obtain ⟨_, -, hstep⟩ := step_eq_ok_iff.1 hs
    rw [line_of_after hr, hstep.line, List.length_cons]
    omega

theorem run_of_after :
    ∀ {raws : List String} {r r' : Reader}, r.after raws = .ok r' →
      r.run raws = ⟨r'.events, r'.finish⟩
  | [], r, r', h => by
    cases h
    rfl
  | raw :: raws, r, r', h => by
    obtain ⟨s, hs, hr⟩ := after_cons_eq_ok.1 h
    rw [run, hs]
    exact run_of_after hr

theorem outcome_run_of_error :
    ∀ {raws : List String} {r : Reader} {e : ReadError}, r.after raws = .error e →
      (r.run raws).outcome = .error e
  | [], r, e, h => by cases h
  | raw :: raws, r, e, h => by
    rcases after_cons_eq_error.1 h with hs | ⟨s, hs, h⟩
    · rw [run, hs]
    · rw [run, hs]
      exact outcome_run_of_error h

theorem outcome_run (r : Reader) (raws : List String) :
    (r.run raws).outcome = (r.after raws).bind finish := by
  rcases h : r.after raws with e | r'
  · exact outcome_run_of_error h
  · rw [run_of_after h]
    rfl

end RangeIndex.Reader
