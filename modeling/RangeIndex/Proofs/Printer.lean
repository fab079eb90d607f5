import RangeIndex.Index.Layout

/-!
# Writing a block step by step

`nest` lays out the items of a block in one go. Here it is taken apart: each move closes the
innermost open declaration or writes the next item (`nest_close`, `nest_declaration`,
`nest_occurrence`), and `nest_induction` is the induction over these moves.

A `Printer` makes the same moves one after the other, and it keeps the depth of the next line in a
counter of its own instead of counting the open declarations. The counter does not go below zero, so
a printer could get stuck where it closes a declaration. It never does, since at each of its states
the counter is the number of open declarations (`Reaches.depth_eq`), and what it has written in the
end is the layout of the block (`exists_finished`).
-/

namespace RangeIndex.Layout

open RangeIndex.Text (writeNumeral)

/-! ## The moves of a layout -/

/-- Whether a declaration ends at or before the next item. -/
def isOver (d : Declaration) : List Item → Bool
  | [] => true
  | item :: _ => d.span.stop ≤ item.start

/-- The innermost open declaration goes on, if there is one. -/
def GoesOn (opened : List Declaration) (items : List Item) : Prop :=
  ∀ d ∈ opened.head?, isOver d items = false

theorem nest_close {d : Declaration} {items : List Item} (h : isOver d items)
    (outer : List Declaration) :
    nest (d :: outer) items = closing outer.length d :: nest outer items := by
  cases items with
  | nil => rfl
  | cons item items =>
    have hstop : d.span.stop ≤ item.start := by simpa [isOver] using h
    simp [nest, closeUntil, hstop]

theorem closeUntil_of_goesOn {opened : List Declaration} {item : Item} {items : List Item}
    (h : GoesOn opened (item :: items)) : closeUntil item.start opened = ([], opened) := by
  cases opened with
  | nil => rfl
  | cons d outer =>
    have hstop : ¬ d.span.stop ≤ item.start := by simpa [isOver] using h d rfl
    rw [closeUntil, if_neg hstop]

theorem nest_declaration {opened : List Declaration} {d : Declaration} {items : List Item}
    (h : GoesOn opened (.declaration d :: items)) :
    nest opened (.declaration d :: items) =
      .record opened.length (d.kind.token :: d.write) ::
        .comment opened.length ("Start " ++ d.display) :: nest (d :: opened) items := by
  rw [nest, closeUntil_of_goesOn h]
  rfl

theorem nest_occurrence {opened : List Declaration} {o : Occurrence} {items : List Item}
    (h : GoesOn opened (.occurrence o :: items)) :
    nest opened (.occurrence o :: items) =
      .record opened.length (o.kind.token :: o.write) :: nest opened items := by
  rw [nest, closeUntil_of_goesOn h]
  rfl

theorem exists_isOver_or_goesOn (opened : List Declaration) (items : List Item) :
    (∃ d outer, opened = d :: outer ∧ isOver d items) ∨ GoesOn opened items := by
  cases opened with
  | nil => exact .inr (by simp [GoesOn])
  | cons d outer =>
    cases h : isOver d items with
    | true => exact .inl ⟨d, outer, rfl, h⟩
    | false => exact .inr (by simpa [GoesOn] using h)

theorem GoesOn.eq_nil {opened : List Declaration} (h : GoesOn opened []) : opened = [] := by
  cases opened with
  | nil => rfl
  | cons d outer => exact absurd (h d rfl) (by simp [isOver])

theorem nest_induction {motive : List Declaration → List Item → Prop}
    (finished : motive [] [])
    (close : ∀ d outer items, isOver d items → motive outer items → motive (d :: outer) items)
    (declaration : ∀ opened d items, GoesOn opened (.declaration d :: items) →
      motive (d :: opened) items → motive opened (.declaration d :: items))
    (occurrence : ∀ opened o items, GoesOn opened (.occurrence o :: items) →
      motive opened items → motive opened (.occurrence o :: items))
    (opened : List Declaration) (items : List Item) : motive opened items := by
  rcases exists_isOver_or_goesOn opened items with ⟨d, outer, hopened, hover⟩ | hopen
  · rw [hopened]
    exact close d outer items hover
      (nest_induction finished close declaration occurrence outer items)
  · match items, hopen with
    | [], hopen =>
      rw [hopen.eq_nil]
      exact finished
    | .declaration d :: items, hopen =>
      exact declaration opened d items hopen
        (nest_induction finished close declaration occurrence (d :: opened) items)
    | .occurrence o :: items, hopen =>
      exact occurrence opened o items hopen
        (nest_induction finished close declaration occurrence opened items)
-- Opening a declaration takes an item away and leaves one thing more to close.
termination_by 2 * items.length + opened.length
decreasing_by
  · simp [hopened]
  · simp
    omega
  · simp

/-! ## Printers -/

/-- Where the writing of a block stands: the lines so far, the counter for the depth of the next
line, the open declarations from the inside out, and the items that are still to come. -/
structure Printer where
  written : List Line
  depth : Nat
  opened : List Declaration
  items : List Item

namespace Printer

def record (p : Printer) (fields : List String) : Printer :=
  { p with written := p.written ++ [.record p.depth fields] }

def comment (p : Printer) (text : String) : Printer :=
  { p with written := p.written ++ [.comment p.depth text] }

def deeper (p : Printer) : Printer :=
  { p with depth := p.depth + 1 }

/-- Lowers the counter, if it is not zero. -/
def shallower? (p : Printer) : Option Printer :=
  match p.depth with
  | 0 => none
  | depth + 1 => some { p with depth }

/-- The printer behind the `start` record and the links of a file. -/
def begin? (f : FileIndex) : Option Printer :=
  let p : Printer := ⟨[], 0, [], weave f.occurrences f.declarations⟩
  let p := p.record ["start", writeNumeral formatVersion, f.filename, f.hash]
  if f.links.isEmpty then
    some p
  else
    let p := (p.comment "Start Meta").deeper
    let p := f.links.foldl (fun p l => p.record ("meta" :: AccessorLink.token :: l.write)) p
    p.shallower?.map (·.comment "End Meta")

/-- Closes the innermost open declaration `d`. -/
def close? (p : Printer) (d : Declaration) (outer : List Declaration) : Option Printer :=
  let p : Printer := { p with opened := outer }
  p.shallower?.map (·.comment ("End " ++ d.kind.label))

/-- Writes an item; a declaration is open then. -/
def write (p : Printer) : Item → Printer
  | .declaration d =>
    let p := (p.record (d.kind.token :: d.write)).comment ("Start " ++ d.display)
    { p.deeper with opened := d :: p.opened }
  | .occurrence o => p.record (o.kind.token :: o.write)

/-- What a printer does next. -/
inductive Move where
  | next (p : Printer)
  | finished
  | underflow

def advance (p : Printer) : Move :=
  match p.items with
  | [] => .finished
  | item :: items => .next ({ p with items }.write item)

def step (p : Printer) : Move :=
  match p.opened with
  | [] => p.advance
  | d :: outer =>
    if isOver d p.items then
      match p.close? d outer with
      | some q => .next q
      | none => .underflow
    else
      p.advance

inductive Reaches : Printer → Printer → Prop
  | refl (p : Printer) : Reaches p p
  | step {p q r : Printer} : p.step = .next q → Reaches q r → Reaches p r

/-! ## The counter -/

variable {d : Declaration} {opened outer : List Declaration} {items : List Item}

theorem step_close (written : List Line) (h : isOver d items) :
    step ⟨written, outer.length + 1, d :: outer, items⟩ =
      .next ⟨written ++ [closing outer.length d], outer.length, outer, items⟩ := by
  simp [step, h, close?, shallower?, comment, closing]

theorem step_of_goesOn {p : Printer} (h : GoesOn p.opened p.items) : p.step = p.advance := by
  unfold step
  split
  · rfl
  · rename_i d outer hopened
    have hd : isOver d p.items = false := h d (by simp [hopened])
    simp [hd]

theorem step_declaration (written : List Line) (h : GoesOn opened (.declaration d :: items)) :
    step ⟨written, opened.length, opened, .declaration d :: items⟩ =
      .next
        ⟨written ++ [.record opened.length (d.kind.token :: d.write),
          .comment opened.length ("Start " ++ d.display)],
          opened.length + 1, d :: opened, items⟩ := by
  rw [step_of_goesOn h]
  simp [advance, write, record, comment, deeper]

theorem step_occurrence {o : Occurrence} (written : List Line)
    (h : GoesOn opened (.occurrence o :: items)) :
    step ⟨written, opened.length, opened, .occurrence o :: items⟩ =
      .next ⟨written ++ [.record opened.length (o.kind.token :: o.write)], opened.length, opened,
        items⟩ := by
  rw [step_of_goesOn h]
  rfl

/-- A printer whose counter is right makes a move that keeps it right, or has finished. -/
theorem step_spec {p : Printer} (hp : p.depth = p.opened.length) :
    p.step = .finished ∨ ∃ q, p.step = .next q ∧ q.depth = q.opened.length := by
  obtain ⟨written, depth, opened, items⟩ := p
  obtain rfl : depth = opened.length := hp
  rcases exists_isOver_or_goesOn opened items with ⟨d, outer, rfl, hover⟩ | hopen
  · exact .inr ⟨_, step_close written hover, rfl⟩
  · match items, hopen with
    | [], hopen =>
      obtain rfl := hopen.eq_nil
      exact .inl rfl
    | .declaration d :: items, hopen => exact .inr ⟨_, step_declaration written hopen, rfl⟩
    | .occurrence o :: items, hopen => exact .inr ⟨_, step_occurrence written hopen, rfl⟩

theorem Reaches.depth_eq {p q : Printer} (h : p.Reaches q) (hp : p.depth = p.opened.length) :
    q.depth = q.opened.length := by
  induction h with
  | refl p => exact hp
  | step hstep _ ih =>
    rcases step_spec hp with hfinished | ⟨q, hnext, hq⟩
    · rw [hfinished] at hstep
      cases hstep
    · rw [hnext] at hstep
      cases hstep
      exact ih hq

theorem step_ne_underflow {p : Printer} (hp : p.depth = p.opened.length) :
    p.step ≠ .underflow := by
  rcases step_spec hp with hstep | ⟨q, hstep, -⟩ <;> rw [hstep] <;> simp

/-! ## The lines -/

/-- A printer finishes, and writes what `nest` lays out. -/
theorem exists_finished (opened : List Declaration) (items : List Item) :
    ∀ written, ∃ q, Reaches ⟨written, opened.length, opened, items⟩ q ∧ q.step = .finished ∧
      q.depth = 0 ∧ q.written = written ++ nest opened items := by
  induction opened, items using nest_induction with
  | finished =>
    intro written
    exact ⟨_, .refl _, rfl, rfl, by simp [nest, closeAll]⟩
  | close d outer items hover ih =>
    intro written
    obtain ⟨q, hq, hfinished, hdepth, hlines⟩ := ih (written ++ [closing outer.length d])
    refine ⟨q, .step (step_close written hover) hq, hfinished, hdepth, ?_⟩
    simp [hlines, nest_close hover]
  | declaration opened d items hopen ih =>
    intro written
    obtain ⟨q, hq, hfinished, hdepth, hlines⟩ := ih _
    refine ⟨q, .step (step_declaration written hopen) hq, hfinished, hdepth, ?_⟩
    simp [hlines, nest_declaration hopen]
  | occurrence opened o items hopen ih =>
    intro written
    obtain ⟨q, hq, hfinished, hdepth, hlines⟩ := ih _
    refine ⟨q, .step (step_occurrence written hopen) hq, hfinished, hdepth, ?_⟩
    simp [hlines, nest_occurrence hopen]

theorem foldl_record (fields : AccessorLink → List String) (links : List AccessorLink)
    (p : Printer) :
    links.foldl (fun p l => p.record (fields l)) p =
      { p with written := p.written ++ links.map fun l => .record p.depth (fields l) } := by
  induction links generalizing p with
  | nil => simp
  | cons l links ih =>
    rw [List.foldl_cons, ih]
    simp [record]

/-- The counter is back at zero behind the links. -/
theorem begin?_eq (f : FileIndex) :
    begin? f = some
      ⟨.record 0 ["start", writeNumeral formatVersion, f.filename, f.hash] :: linkLines f.links,
        0, [], weave f.occurrences f.declarations⟩ := by
  unfold begin? linkLines
  split
  · rfl
  · simp only [foldl_record]
    simp [record, comment, deeper, shallower?]

end Printer

end RangeIndex.Layout
