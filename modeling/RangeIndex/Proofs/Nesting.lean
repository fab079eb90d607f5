import RangeIndex.Proofs.LayoutErasure
import RangeIndex.Proofs.Printer
import RangeIndex.Text.Affix

/-!
# The nesting of a pretty text

The lines between the header of a block and its `end` are properly nested, for any declarations and
occurrences in any order. `Nested` is the grammar of such lines, with the items that they stand for:
a declaration is its record, a comment where it starts, the lines inside it one step deeper, and a
comment where it ends, at the indentation of its record.

What `nest` lays out while declarations are open is the rest of their lines (`inside_nest`). The
brackets that comments form can also be read off the characters of a text (`bracket?`), and they are
`Matched` with the same labels and indentations.
-/

namespace RangeIndex.Layout

/-! ## Nested lines -/

def recordText (depth : Nat) (fields : List String) : List Char :=
  indent depth ++ (Field.join fields).toList

def startText (depth : Nat) (d : Declaration) : List Char :=
  indent depth ++ ("# Start ".toList ++
    (d.kind.label.toList ++ ' ' :: (d.name ++ d.desc.getD "").toList.flatMap commentChar))

def endText (depth : Nat) (d : Declaration) : List Char :=
  indent depth ++ ("# End ".toList ++ d.kind.label.toList)

def linkText (links : List AccessorLink) : List (List Char) :=
  if links.isEmpty then
    []
  else
    "# Start Meta".toList ::
      (links.map fun l => recordText 1 ("meta" :: AccessorLink.token :: l.write)) ++
        ["# End Meta".toList]

/-- Lines of a text in which every declaration is opened and closed, with the items in them. -/
inductive Nested : Nat → List (List Char) → List Item → Prop
  | nil {depth : Nat} : Nested depth [] []
  | occurrence {depth : Nat} {lines : List (List Char)} {items : List Item} (o : Occurrence) :
      Nested depth lines items →
      Nested depth (recordText depth (o.kind.token :: o.write) :: lines) (.occurrence o :: items)
  | declaration {depth : Nat} {inner lines : List (List Char)} {items more : List Item}
      (d : Declaration) : Nested (depth + 1) inner items → Nested depth lines more →
      Nested depth
        (recordText depth (d.kind.token :: d.write) :: startText depth d ::
          (inner ++ endText depth d :: lines))
        (.declaration d :: (items ++ more))

/-- The rest of a block from inside open declarations. -/
inductive Inside : List Declaration → List (List Char) → List Item → Prop
  | nil {lines : List (List Char)} {items : List Item} : Nested 0 lines items →
      Inside [] lines items
  | cons {outer : List Declaration} {inner lines : List (List Char)} {items more : List Item}
      (d : Declaration) : Nested (outer.length + 1) inner items → Inside outer lines more →
      Inside (d :: outer) (inner ++ endText outer.length d :: lines) (items ++ more)

theorem Inside.occurrence {opened : List Declaration} {lines : List (List Char)}
    {items : List Item} (o : Occurrence) (h : Inside opened lines items) :
    Inside opened (recordText opened.length (o.kind.token :: o.write) :: lines)
      (.occurrence o :: items) := by
  cases h with
  | nil hlines => exact .nil (.occurrence o hlines)
  | cons d hinner houter => exact .cons d (.occurrence o hinner) houter

theorem Inside.declaration {opened : List Declaration} {lines : List (List Char)}
    {items : List Item} {d : Declaration} (h : Inside (d :: opened) lines items) :
    Inside opened
      (recordText opened.length (d.kind.token :: d.write) :: startText opened.length d :: lines)
      (.declaration d :: items) := by
  -- The lines inside `d` end where it is closed, and the others belong to what is around it.
  cases h with
  | cons _ hinner houter =>
    cases houter with
    | nil hlines => exact .nil (.declaration d hinner hlines)
    | cons e hmore houter =>
      have hlines := Nested.declaration d hinner hmore
      have h := Inside.cons e hlines houter
      simpa using h

/-! ## The text of a layout -/

theorem flatMap_commentChar_label (k : DeclarationKind) :
    k.label.toList.flatMap commentChar = k.label.toList := by
  cases k <;> decide

theorem body_record (depth : Nat) (fields : List String) :
    Line.body .pretty (.record depth fields) = some (recordText depth fields) := rfl

theorem body_start (depth : Nat) (d : Declaration) :
    Line.body .pretty (.comment depth ("Start " ++ d.display)) = some (startText depth d) := by
  simp [Line.body, startText, Declaration.display, flatMap_commentChar_label, commentChar]

theorem body_closing (depth : Nat) (d : Declaration) :
    Line.body .pretty (closing depth d) = some (endText depth d) := by
  simp [Line.body, endText, closing, flatMap_commentChar_label, commentChar]

theorem body_linkLines (links : List AccessorLink) :
    (linkLines links).filterMap (Line.body .pretty) = linkText links := by
  unfold linkLines linkText
  split
  · rfl
  · simp [Line.body, List.filterMap_map, Function.comp_def, recordText, indent, commentChar]

theorem inside_nest (opened : List Declaration) (items : List Item) :
    Inside opened ((nest opened items).filterMap (Line.body .pretty)) items := by
  induction opened, items using nest_induction with
  | finished => exact .nil .nil
  | close d outer items hover ih =>
    rw [nest_close hover, List.filterMap_cons_some (body_closing outer.length d)]
    exact .cons d .nil ih
  | declaration opened d items hopen ih =>
    rw [nest_declaration hopen, List.filterMap_cons_some (body_record _ _),
      List.filterMap_cons_some (body_start opened.length d)]
    exact ih.declaration
  | occurrence opened o items hopen ih =>
    rw [nest_occurrence hopen, List.filterMap_cons_some (body_record _ _)]
    exact ih.occurrence o

theorem nested_nest (items : List Item) :
    Nested 0 ((nest [] items).filterMap (Line.body .pretty)) items := by
  cases inside_nest [] items with
  | nil h => exact h

/-! ## Brackets -/

/-- A comment that opens or closes something, with its indentation and its label. -/
inductive Bracket where
  | opening (indentation : Nat) (label : List Char)
  | closing (indentation : Nat) (label : List Char)
deriving DecidableEq

def bracketAt (indentation : Nat) (cs : List Char) : Option Bracket :=
  match Text.afterChars? "# Start ".toList cs, Text.afterChars? "# End ".toList cs with
  | some rest, _ => some (.opening indentation (rest.takeWhile (· != ' ')))
  | none, some rest => some (.closing indentation rest)
  | none, none => none

/-- The bracket that a line of a text is, if it is one. -/
def bracket? (line : List Char) : Option Bracket :=
  bracketAt (line.takeWhile (· == ' ')).length (Text.unindent line)

/-- Each bracket is closed by one with its label and its indentation. -/
inductive Matched : List Bracket → Prop
  | nil : Matched []
  | pair {inner rest : List Bracket} (indentation : Nat) (label : List Char) :
      Matched inner → Matched rest →
      Matched (.opening indentation label :: (inner ++ .closing indentation label :: rest))

theorem bracket?_indent (depth : Nat) {cs : List Char} (h : cs.head? ≠ some ' ') :
    bracket? (indent depth ++ cs) = bracketAt (2 * depth) cs := by
  have htake : cs.takeWhile (· == ' ') = [] := by
    cases cs with
    | nil => rfl
    | cons c cs =>
      have hc : c ≠ ' ' := fun hc => h (by simp [hc])
      simp [hc]
  rw [bracket?, indent, Text.unindent_replicate h, List.takeWhile_append_of_pos (by simp), htake]
  simp

theorem bracketAt_start (indentation : Nat) (cs : List Char) :
    bracketAt indentation ("# Start ".toList ++ cs) =
      some (.opening indentation (cs.takeWhile (· != ' '))) := by
  have hafter : Text.afterChars? "# Start ".toList ("# Start ".toList ++ cs) = some cs :=
    Text.afterChars?_eq_some_iff.2 rfl
  rw [bracketAt, hafter]

theorem bracketAt_end (indentation : Nat) (cs : List Char) :
    bracketAt indentation ("# End ".toList ++ cs) = some (.closing indentation cs) := by
  have hafter : Text.afterChars? "# End ".toList ("# End ".toList ++ cs) = some cs :=
    Text.afterChars?_eq_some_iff.2 rfl
  have hstart : Text.afterChars? "# Start ".toList ("# End ".toList ++ cs) = none := by
    simp [Text.afterChars?]
  rw [bracketAt, hafter, hstart]

theorem bracket?_record (depth : Nat) (fields : List String) :
    bracket? (recordText depth fields) = none := by
  obtain ⟨hspace, hhash⟩ := Field.head?_join fields
  rw [recordText, bracket?_indent depth hspace]
  cases h : (Field.join fields).toList with
  | nil => rfl
  | cons c cs =>
    have hc : '#' ≠ c := by
      rintro rfl
      exact hhash (by simp [h])
    simp [bracketAt, Text.afterChars?, hc]

theorem takeWhile_label (k : DeclarationKind) (cs : List Char) :
    (k.label.toList ++ ' ' :: cs).takeWhile (· != ' ') = k.label.toList := by
  have hlabel : ∀ c ∈ k.label.toList, (c != ' ') = true := by
    cases k <;> simp [DeclarationKind.label]
  rw [List.takeWhile_append_of_pos hlabel]
  simp

theorem bracket?_start (depth : Nat) (d : Declaration) :
    bracket? (startText depth d) = some (.opening (2 * depth) d.kind.label.toList) := by
  rw [startText, bracket?_indent depth (by simp), bracketAt_start, takeWhile_label]

theorem bracket?_end (depth : Nat) (d : Declaration) :
    bracket? (endText depth d) = some (.closing (2 * depth) d.kind.label.toList) := by
  rw [endText, bracket?_indent depth (by simp), bracketAt_end]

theorem Nested.matched {depth : Nat} {lines : List (List Char)} {items : List Item}
    (h : Nested depth lines items) : Matched (lines.filterMap bracket?) := by
  induction h with
  | nil => exact .nil
  | occurrence o _ ih => rwa [List.filterMap_cons_none (bracket?_record _ _)]
  | declaration d _ _ ihinner ih =>
    rw [List.filterMap_cons_none (bracket?_record _ _),
      List.filterMap_cons_some (bracket?_start _ d), List.filterMap_append,
      List.filterMap_cons_some (bracket?_end _ d)]
    exact .pair _ _ ihinner ih

/-- The comments around the links form a pair of their own. -/
theorem matched_linkText (links : List AccessorLink) {brackets : List Bracket}
    (h : Matched brackets) : Matched ((linkText links).filterMap bracket? ++ brackets) := by
  unfold linkText
  split
  · exact h
  · have hlinks : (links.map fun l =>
        recordText 1 ("meta" :: AccessorLink.token :: l.write)).filterMap bracket? = [] := by
      rw [List.filterMap_eq_nil_iff]
      intro line hline
      obtain ⟨l, -, rfl⟩ := List.mem_map.1 hline
      exact bracket?_record _ _
    have hstart : bracket? "# Start Meta".toList = some (.opening 0 "Meta".toList) := by decide
    have hend : bracket? "# End Meta".toList = some (.closing 0 "Meta".toList) := by decide
    have hpair := Matched.pair 0 "Meta".toList .nil h
    rw [List.cons_append, List.filterMap_cons_some hstart, List.filterMap_append, hlinks,
      List.filterMap_cons_some hend]
    exact hpair

/-! ## Whole blocks -/

theorem recordText_end : recordText 0 ["end"] = "end".toList := by decide

theorem splitOn_toText_pretty (f : FileIndex) :
    (f.toText .pretty).toList.splitOn '\n' =
      recordText 0 ["start", Text.writeNumeral formatVersion, f.filename, f.hash] ::
        (linkText f.links ++
          (nest [] (weave f.occurrences f.declarations)).filterMap (Line.body .pretty) ++
          ["end".toList, []]) := by
  rw [splitOn_toText, ofFile, List.filterMap_cons_some (body_record _ _), List.filterMap_append,
    List.filterMap_append, body_linkLines, List.filterMap_cons_some (body_record _ _),
    recordText_end]
  simp

/-- At any time a printer's counter is the number of open declarations, so it never gets stuck, and
the block that it writes is the file's. In the pretty text of the block, the lines between header
and end are nested, with each declaration and each occurrence of the file in them once, and all
comments that open or close something are matched brackets. -/
theorem nesting_is_balanced (f : FileIndex) :
    (∃ p, Printer.begin? f = some p ∧
      (∀ q, p.Reaches q → q.depth = q.opened.length ∧ q.step ≠ .underflow) ∧
      ∃ q, p.Reaches q ∧ q.step = .finished ∧ (q.record ["end"]).written = ofFile f) ∧
    (∃ body items,
      (f.toText .pretty).toList.splitOn '\n' =
        recordText 0 ["start", Text.writeNumeral formatVersion, f.filename, f.hash] ::
          (linkText f.links ++ body ++ ["end".toList, []]) ∧
      Nested 0 body items ∧
      items.filterMap Item.declaration? = f.declarations ∧
      items.filterMap Item.occurrence? = f.occurrences) ∧
    Matched (((f.toText .pretty).toList.splitOn '\n').filterMap bracket?) := by
  have hnested := nested_nest (weave f.occurrences f.declarations)
  refine ⟨⟨_, Printer.begin?_eq f, fun q hq => ?_, ?_⟩, ⟨_, _, splitOn_toText_pretty f, hnested,
    declarations_weave _ _, occurrences_weave _ _⟩, ?_⟩
  · have hdepth := hq.depth_eq rfl
    exact ⟨hdepth, Printer.step_ne_underflow hdepth⟩
  · obtain ⟨q, hq, hfinished, hdepth, hwritten⟩ :=
      Printer.exists_finished [] (weave f.occurrences f.declarations)
        (.record 0 ["start", Text.writeNumeral formatVersion, f.filename, f.hash] ::
          linkLines f.links)
    refine ⟨q, hq, hfinished, ?_⟩
    simp [Printer.record, hdepth, hwritten, ofFile]
  · have hmatched := matched_linkText f.links hnested.matched
    rw [splitOn_toText_pretty, List.filterMap_cons_none (bracket?_record _ _),
      List.filterMap_append, List.filterMap_append]
    have hend : ["end".toList, []].filterMap bracket? = [] := by decide
    rwa [hend, List.append_nil]

/-- A file in which two declarations cross, one is empty, and an occurrence is out of order. -/
def crossing : FileIndex :=
  ⟨"a", "h", [⟨⟨4, 1⟩, "x", .package⟩, ⟨⟨2, 4⟩, "y", .package⟩],
    [⟨.type, ⟨0, 5⟩, "A", none⟩, ⟨.method, ⟨3, 9⟩, "m", some "()V"⟩, ⟨.type, ⟨7, 0⟩, "B", none⟩],
    []⟩

theorem nesting_is_balanced_crossing :
    ∃ p q, Printer.begin? crossing = some p ∧ p.Reaches q ∧ q.opened.length = 2 ∧
      q.depth = q.opened.length ∧ q.step ≠ .underflow := by
  obtain ⟨⟨p, hp, hall, -⟩, -⟩ := nesting_is_balanced crossing
  obtain ⟨q, hq, hlength⟩ : ∃ q, p.Reaches q ∧ q.opened.length = 2 := by
    simp only [Printer.begin?_eq, Option.some.injEq] at hp
    have hitems : weave crossing.occurrences crossing.declarations =
        [.declaration ⟨.type, ⟨0, 5⟩, "A", none⟩, .declaration ⟨.method, ⟨3, 9⟩, "m", some "()V"⟩,
          .occurrence ⟨⟨4, 1⟩, "x", .package⟩, .occurrence ⟨⟨2, 4⟩, "y", .package⟩,
          .declaration ⟨.type, ⟨7, 0⟩, "B", none⟩] := by
      simp [weave, crossing]
    rw [← hp, hitems]
    exact ⟨_, .step rfl (.step rfl (.refl _)), rfl⟩
  exact ⟨p, q, hp, hq, hlength, hall q hq⟩

end RangeIndex.Layout
