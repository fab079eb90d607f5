import Mathlib.Data.List.Induction
import RangeIndex.Proofs.LineText
import RangeIndex.Proofs.Quoting
import RangeIndex.Proofs.ReaderSteps

/-!
# The first line that does not fit

A failing read stops at one line: the lines before it are read, and what follows it is not looked
at. The one error that is about no line that was read is the end of the text inside a block, and it
is told apart by naming the line where that block starts twice (`ReadError.IsUnclosed`).

What the reader remembers of an open block is the line where it starts. `OpenSince` says it of the
lines alone: that line opens a block and no later one starts or ends one. It holds of the lines read
so far in every state of the reader that has an open block (`openSince_of_after`). `FailsAt` names
the failing line of a text by the lines before it, and the parts of `parse_error_is_first` are facts
about it.
-/

namespace RangeIndex

/-- The line that an error names. -/
def ReadError.line? : ReadError → Option Nat
  | .malformedLine line _ _ => some line
  | .malformedBlock line _ => some line
  | .unreadable _ => none

/-- The error says that the text ends inside the block that starts on the line it names. -/
def ReadError.IsUnclosed (e : ReadError) : Prop :=
  ∃ s, e = .malformedBlock s (.missingEnd s)

/-- The first field of a line is `head`. -/
def HasHead (head raw : String) : Prop :=
  ∃ fields, Field.split raw = .ok (head :: fields)

/-- Line `s` of `raws` opens a block, and no later one starts or ends a block. -/
def OpenSince (raws : List String) (s : Nat) : Prop :=
  ∃ before raw inside version filename hash, raws = before ++ raw :: inside ∧
    s = before.length + 1 ∧ Field.split raw = .ok ["start", version, filename, hash] ∧
    Text.readNumeral? version = some formatVersion ∧
    ∀ l ∈ inside, ¬ HasHead "start" l ∧ ¬ HasHead "end" l

theorem OpenSince.bounds {raws : List String} {s : Nat} (h : OpenSince raws s) :
    0 < s ∧ s ≤ raws.length := by
  obtain ⟨before, raw, inside, -, -, -, rfl, rfl, -⟩ := h
  simp only [List.length_append, List.length_cons]
  omega

theorem OpenSince.concat {raws : List String} {s : Nat} (h : OpenSince raws s) {raw : String}
    (hstart : ¬ HasHead "start" raw) (hend : ¬ HasHead "end" raw) :
    OpenSince (raws ++ [raw]) s := by
  obtain ⟨before, first, inside, version, filename, hash, rfl, hs, hf, hv, hinside⟩ := h
  refine ⟨before, first, inside ++ [raw], version, filename, hash, by simp, hs, hf, hv, ?_⟩
  intro l hl
  rcases List.mem_append.1 hl with hl | hl
  · exact hinside l hl
  · obtain rfl := List.mem_singleton.1 hl
    exact ⟨hstart, hend⟩

theorem not_hasHead {raw head : String} {fields : List String} (hf : Field.split raw = .ok fields)
    (h : fields.head? ≠ some head) : ¬ HasHead head raw := by
  rintro ⟨rest, hr⟩
  rw [hf] at hr
  cases hr
  exact h rfl

/-- The open block is known by the line where it starts. -/
theorem openSince_of_after {raws : List String} :
    ∀ {r : Reader} {block : Block}, Reader.new.after raws = .ok r → r.block = some block →
      OpenSince raws block.line := by
  -- The last line decides: it opens the block, or the block was open and goes on.
  induction raws using List.reverseRecOn with
  | nil =>
    intro r block h hb
    cases h
    cases hb
  | append_singleton raws raw ih =>
    intro r block h hb
    obtain ⟨s, hs, hstep⟩ := Reader.after_append_eq_ok.1 h
    obtain ⟨t, hstep, ht⟩ := Reader.after_cons_eq_ok.1 hstep
    cases ht
    obtain ⟨fields, hf, hstep⟩ := Reader.step_eq_ok_iff.1 hstep
    cases hstep with
    | blank => exact (ih hs hb).concat (not_hasHead hf (by simp)) (not_hasHead hf (by simp))
    | start _ hv =>
      cases hb
      have hline := Reader.line_of_after hs
      refine ⟨raws, raw, [], _, _, _, rfl, ?_, hf, hv, by simp⟩
      simp [hline, Reader.new]
    | record hstart hend hb' _ =>
      cases hb
      exact (ih hs hb').concat (not_hasHead hf (by simpa using hstart))
        (not_hasHead hf (by simpa using hend))
    | finish _ => cases hb

/-! ## Where reading fails -/

theorem Reader.StepError.line?_eq {r : Reader} {raw : String} {e : ReadError}
    (h : StepError r raw e) : e.line? = some (r.line + 1) := by
  cases h <;> rfl

theorem Reader.StepError.text_eq {r : Reader} {raw text : String} {line : Nat} {cause : RecordError}
    (h : StepError r raw (.malformedLine line text cause)) : text = raw := by
  cases h
  rfl

theorem Reader.StepError.exists_block {r : Reader} {raw : String} {line s : Nat}
    (h : StepError r raw (.malformedBlock line (.missingEnd s))) :
    ∃ block, r.block = some block ∧ block.line = s := by
  cases h with
  | missingEnd hb => exact ⟨_, hb, rfl⟩

/-- The line of `text` at which reading fails with `e`: the lines `before` it are read. -/
structure FailsAt (text : String) (e : ReadError) (before : List String) (raw : String) : Prop where
  lines : ∃ rest, Text.lines text = before ++ raw :: rest
  step : ∃ r, Reader.new.after before = .ok r ∧ r.step raw = .error e

namespace FailsAt

variable {text raw : String} {e : ReadError} {before : List String}

theorem outcome (h : FailsAt text e before raw) : (Index.parse text).outcome = .error e := by
  obtain ⟨rest, hlines⟩ := h.lines
  obtain ⟨r, hbefore, hstep⟩ := h.step
  have hafter : Reader.new.after (before ++ [raw]) = .error e := by
    rw [Reader.after_concat hbefore, hstep]
  have hall := Reader.after_append_of_error hafter rest
  rw [List.append_assoc, List.singleton_append, ← hlines] at hall
  exact Reader.outcome_run_of_error hall

theorem line?_eq (h : FailsAt text e before raw) : e.line? = some (before.length + 1) := by
  obtain ⟨r, hbefore, hstep⟩ := h.step
  rw [(Reader.step_eq_error hstep).line?_eq, Reader.line_of_after hbefore]
  simp [Reader.new]

theorem text_eq {line : Nat} {text' : String} {cause : RecordError}
    (h : FailsAt text (.malformedLine line text' cause) before raw) : text' = raw := by
  obtain ⟨r, -, hstep⟩ := h.step
  exact (Reader.step_eq_error hstep).text_eq

theorem openSince {line s : Nat}
    (h : FailsAt text (.malformedBlock line (.missingEnd s)) before raw) : OpenSince before s := by
  obtain ⟨r, hbefore, hstep⟩ := h.step
  obtain ⟨block, hb, rfl⟩ := (Reader.step_eq_error hstep).exists_block
  exact openSince_of_after hbefore hb

/-- A failing line never has the error of a text that ends inside a block: the open block starts
before that line. -/
theorem not_isUnclosed (h : FailsAt text e before raw) : ¬ e.IsUnclosed := by
  rintro ⟨s, rfl⟩
  have hline : s = before.length + 1 := Option.some.inj h.line?_eq
  have hs := h.openSince.bounds
  omega

/-- What follows the failing line does not matter. -/
theorem of_take_eq (h : FailsAt text e before raw) {other : String}
    (hother : (Text.lines other).take (before.length + 1) =
      (Text.lines text).take (before.length + 1)) : FailsAt other e before raw := by
  refine ⟨⟨(Text.lines other).drop (before.length + 1), ?_⟩, h.step⟩
  obtain ⟨rest, hlines⟩ := h.lines
  have hfirst : (Text.lines text).take (before.length + 1) = before ++ [raw] := by
    rw [hlines, List.take_length_add_append]
    rfl
  have hsplit := List.take_append_drop (before.length + 1) (Text.lines other)
  rw [hother, hfirst, List.append_assoc, List.singleton_append] at hsplit
  exact hsplit.symm

end FailsAt

/-- Reading fails at a line, all lines before it being read, or at the end inside a block. -/
theorem failsAt_or_of_outcome {text : String} {e : ReadError}
    (h : (Index.parse text).outcome = .error e) :
    (∃ before raw, FailsAt text e before raw) ∨
    ∃ r block, Reader.new.after (Text.lines text) = .ok r ∧ r.block = some block ∧
      e = .malformedBlock block.line (.missingEnd block.line) := by
  rw [Index.parse, Reader.outcome_run] at h
  rcases ha : Reader.new.after (Text.lines text) with e' | r <;> rw [ha] at h
  · cases h
    obtain ⟨before, raw, rest, s, hlines, hbefore, hstep⟩ := Reader.after_eq_error ha
    exact .inl ⟨before, raw, ⟨rest, hlines⟩, s, hbefore, hstep⟩
  · simp only [Except.bind, Reader.finish] at h
    split at h
    · rename_i block hb
      cases h
      exact .inr ⟨r, block, rfl, hb, rfl⟩
    · cases h

/-- Reading the lines before a failing one succeeds or ends inside a block. -/
theorem outcome_of_after {text : String} {r : Reader}
    (h : Reader.new.after (Text.lines text) = .ok r) :
    (∃ index, (Index.parse text).outcome = .ok index) ∨
      ∃ e, (Index.parse text).outcome = .error e ∧ e.IsUnclosed := by
  rw [Index.parse, Reader.outcome_run, h]
  simp only [Except.bind, Reader.finish]
  split
  · rename_i block _
    exact .inr ⟨_, rfl, block.line, rfl⟩
  · exact .inl ⟨_, rfl⟩

/-! ## Ending the last block -/

theorem split_end : Field.split "end" = .ok ["end"] :=
  Field.splitFrom_join ["end"] 0

theorem step_end {r : Reader} {block : Block} (h : r.block = some block) :
    ∃ s, r.step "end" = .ok s ∧ s.block = none :=
  ⟨_, Reader.step_eq_ok_iff.2 ⟨["end"], split_end, .finish h⟩, rfl⟩

/-- A reader that is inside a block after a text is outside of it after one more line `end`. -/
theorem after_appendLine_end {text : String} {r s : Reader}
    (h : Reader.new.after (Text.lines text) = .ok r) (hend : r.step "end" = .ok s) :
    Reader.new.after (Text.lines (Text.appendLine text "end")) = .ok s := by
  have hend' : ∀ c ∈ "end".toList, c ≠ '\n' ∧ c ≠ '\r' :=
    fun c => @Field.not_lineBreak_join ["end"] c
  rcases Text.lines_appendLine text hend' with hl | ⟨init, last, hlines, hl⟩
  · rw [hl, Reader.after_concat h, hend]
  · -- The last line was open, and loses a carriage return now that it is closed.
    rw [hlines] at h
    obtain ⟨t, hinit, hlast⟩ := Reader.after_append_eq_ok.1 h
    obtain ⟨r', hlast, hr⟩ := Reader.after_cons_eq_ok.1 hlast
    cases hr
    have hstep := Reader.step_congr hlast fun _ => Field.split_dropLineEnd
    rw [hl]
    refine Reader.after_append_eq_ok.2 ⟨t, hinit, Reader.after_cons_eq_ok.2 ⟨r, hstep, ?_⟩⟩
    exact Reader.after_cons_eq_ok.2 ⟨s, hend, rfl⟩

/-- A failing read reports the first line that does not fit, and only that: lines after it do not
matter, the lines before it are no error but for the end of an open block, and the error holds that
line's text or the line where the open block starts. A text that ends inside a block is missing
one line `end`. -/
theorem parse_error_is_first (text : String) :
    (∀ e n, (Index.parse text).outcome = .error e → e.line? = some n → ¬ e.IsUnclosed →
      0 < n ∧ n ≤ (Text.lines text).length ∧
      (∀ other, (Text.lines other).take n = (Text.lines text).take n →
        (Index.parse other).outcome = .error e) ∧
      ((∃ index, (Index.parse (Text.takeLines (n - 1) text)).outcome = .ok index) ∨
        ∃ e', (Index.parse (Text.takeLines (n - 1) text)).outcome = .error e' ∧ e'.IsUnclosed) ∧
      (∀ line raw cause, e = .malformedLine line raw cause →
        (Text.lines text)[n - 1]? = some raw) ∧
      ∀ line s, e = .malformedBlock line (.missingEnd s) →
        s < n ∧ OpenSince ((Text.lines text).take (n - 1)) s) ∧
    ∀ s, (Index.parse text).outcome = .error (.malformedBlock s (.missingEnd s)) →
      OpenSince (Text.lines text) s ∧
        ∃ index, (Index.parse (Text.appendLine text "end")).outcome = .ok index := by
  constructor
  · intro e n h hn hopen
    rcases failsAt_or_of_outcome h with ⟨before, raw, hfail⟩ | ⟨r, block, -, -, rfl⟩
    · obtain rfl : before.length + 1 = n := Option.some.inj (hfail.line?_eq.symm.trans hn)
      obtain ⟨rest, hlines⟩ := hfail.lines
      have htake : (Text.lines text).take (before.length + 1 - 1) = before := by
        rw [hlines]
        simp
      refine ⟨by omega, by simp [hlines], fun other hother => ?_, ?_, ?_, ?_⟩
      · exact (hfail.of_take_eq hother).outcome
      · obtain ⟨r, hbefore, -⟩ := hfail.step
        refine outcome_of_after (r := r) ?_
        rw [Text.lines_takeLines, htake, hbefore]
      · rintro line text' cause rfl
        obtain rfl := hfail.text_eq
        simp [hlines]
      · rintro line s rfl
        rw [htake]
        exact ⟨by have := hfail.openSince.bounds; omega, hfail.openSince⟩
    · exact absurd ⟨_, rfl⟩ hopen
  · intro s h
    rcases failsAt_or_of_outcome h with ⟨before, raw, hfail⟩ | ⟨r, block, hafter, hb, he⟩
    · exact absurd ⟨s, rfl⟩ hfail.not_isUnclosed
    · cases he
      refine ⟨openSince_of_after hafter hb, ?_⟩
      obtain ⟨t, hstep, ht⟩ := step_end hb
      refine ⟨t.index, ?_⟩
      rw [Index.parse, Reader.outcome_run, after_appendLine_end hafter hstep]
      simp only [Except.bind, Reader.finish, ht]

/-- A block that starts inside another one, and a text that ends inside a block. -/
theorem parse_error_is_first_nested :
    ((Index.parse "start 1 a h\nstart 1 b h\nend\n").outcome =
        .error (.malformedBlock 2 (.missingEnd 1)) ∧
      (∀ other, (Text.lines other).take 2 = ["start 1 a h", "start 1 b h"] →
        (Index.parse other).outcome = .error (.malformedBlock 2 (.missingEnd 1))) ∧
      OpenSince ["start 1 a h"] 1) ∧
    (Index.parse "start 1 a h\npackage 0 1 a\r").outcome =
        .error (.malformedBlock 1 (.missingEnd 1)) ∧
      ∃ index, (Index.parse "start 1 a h\npackage 0 1 a\r\nend\n").outcome = .ok index := by
  have hnested : (Index.parse "start 1 a h\nstart 1 b h\nend\n").outcome =
      .error (.malformedBlock 2 (.missingEnd 1)) := by decide +kernel
  have hopen : (Index.parse "start 1 a h\npackage 0 1 a\r").outcome =
      .error (.malformedBlock 1 (.missingEnd 1)) := by decide +kernel
  have hclosed : ¬ (ReadError.malformedBlock 2 (.missingEnd 1)).IsUnclosed := by
    rintro ⟨s, hs⟩
    simp only [ReadError.malformedBlock.injEq, BlockError.missingEnd.injEq] at hs
    omega
  obtain ⟨-, -, hsame, -, -, hstart⟩ := (parse_error_is_first _).1 _ 2 hnested rfl hclosed
  exact ⟨⟨hnested, hsame, (hstart 2 1 rfl).2⟩, hopen, ((parse_error_is_first _).2 1 hopen).2⟩

end RangeIndex
