import RangeIndex.Proofs.Grammar
import RangeIndex.Proofs.LayoutText

/-!
# A written index reads back

The lines that `writeAll` writes are blocks of the grammar, one for each file
(`exists_isIndex_of_fields`), and each block says what its file holds, with normalized declarations
(`FileIndex.recorded`). So reading gives the index of these files (`parse_writeAll_eq`), in both
styles, and files of distinct names with normalized declarations come back as they were.
-/

namespace RangeIndex

/-- A file's index as its records keep it: a declaration has a descriptor exactly if it is a
method. -/
def FileIndex.recorded (f : FileIndex) : FileIndex :=
  { f with declarations := f.declarations.map Declaration.normalize }

theorem FileIndex.recorded_eq_self {f : FileIndex}
    (h : ∀ d ∈ f.declarations, d.normalize = d) : f.recorded = f := by
  have hmap : f.declarations.map Declaration.normalize = f.declarations :=
    (List.map_congr_left h).trans (List.map_id _)
  rw [recorded, hmap]

theorem FileIndex.map_recorded_eq_self {files : List FileIndex}
    (h : ∀ f ∈ files, ∀ d ∈ f.declarations, d.normalize = d) : files.map recorded = files :=
  (List.map_congr_left fun f hf => recorded_eq_self (h f hf)).trans (List.map_id _)

namespace Layout

/-- The record that is read from an item's line. -/
def Item.entry : Item → Entry
  | .declaration d => .declaration d.normalize
  | .occurrence o => .occurrence o

open Grammar

theorem isRecord_item (item : Item) : IsRecord item.fields item.entry := by
  cases item with
  | declaration d =>
    refine isRecord_iff.2 ⟨?_, ?_, Entry.read_declaration d⟩ <;> cases d.kind <;> decide
  | occurrence o =>
    refine isRecord_iff.2 ⟨?_, ?_, Entry.read_occurrence o⟩ <;> cases o.kind <;> decide

theorem isRecord_link (l : AccessorLink) :
    IsRecord ("meta" :: AccessorLink.token :: l.write) (.link l) :=
  isRecord_iff.2 ⟨by decide, by decide, Entry.read_link l⟩

/-- The records of a file's block. -/
def entriesOf (f : FileIndex) : List Entry :=
  f.links.map .link ++ (weave f.occurrences f.declarations).map Item.entry

theorem ofEntries_entriesOf (f : FileIndex) :
    FileIndex.ofEntries f.filename f.hash (entriesOf f) = f.recorded := by
  have hocc : Entry.occurrence? ∘ Item.entry = Item.occurrence? := by
    funext item
    cases item <;> rfl
  have hdecl : Entry.declaration? ∘ Item.entry =
      fun item => item.declaration?.map Declaration.normalize := by
    funext item
    cases item <;> rfl
  have hlink : Entry.link? ∘ Item.entry = fun _ => none := by
    funext item
    cases item <;> rfl
  have hocc' : Entry.occurrence? ∘ Entry.link = fun _ => none := rfl
  have hdecl' : Entry.declaration? ∘ Entry.link = fun _ => none := rfl
  have hlink' : Entry.link? ∘ Entry.link = some := rfl
  simp only [FileIndex.ofEntries, entriesOf, List.filterMap_append, List.filterMap_map, hocc, hdecl,
    hlink, hocc', hdecl', hlink', List.filterMap_none, List.filterMap_some, List.nil_append,
    List.append_nil, occurrences_weave, ← List.map_filterMap, declarations_weave]
  rfl

/-- The records of a file's block, whatever their line numbers, are a block of the grammar. -/
theorem exists_isBlock_of_fields {f : FileIndex} {lines : List FieldLine}
    (h : lines.map FieldLine.fields = (ofFile f).filterMap Line.fields?) :
    ∃ block, IsBlock lines block ∧ block.file = f.recorded := by
  rw [fields_ofFile, List.map_eq_cons_iff] at h
  obtain ⟨⟨first, startFields⟩, tail, rfl, rfl, htail⟩ := h
  obtain ⟨body, ends, rfl, hbody, hends⟩ := List.map_eq_append_iff.1 htail
  rw [List.map_eq_cons_iff] at hends
  obtain ⟨⟨last, endFields⟩, none, rfl, rfl, hnone⟩ := hends
  rw [List.map_eq_nil_iff] at hnone
  subst hnone
  have hrecords :
      List.Forall₂ (fun line entry => IsRecord line.fields entry) body (entriesOf f) := by
    rw [← List.forall₂_map_left_iff, hbody, entriesOf]
    refine List.rel_append ?_ ?_
    · simp only [List.forall₂_map_left_iff, List.forall₂_map_right_iff, List.forall₂_same]
      exact fun l _ => isRecord_link l
    · simp only [List.forall₂_map_left_iff, List.forall₂_map_right_iff, List.forall₂_same]
      exact fun item _ => isRecord_item item
  refine ⟨_, .intro ?_ hrecords, ofEntries_entriesOf f⟩
  exact Text.readNumeral?_writeNumeral formatVersion

theorem exists_isIndex_of_fields :
    ∀ {files : List FileIndex} {lines : List FieldLine},
      lines.map FieldLine.fields = (files.flatMap ofFile).filterMap Line.fields? →
      ∃ blocks, IsIndex lines blocks ∧
        blocks.map WrittenBlock.file = files.map FileIndex.recorded
  | [], lines, h => by
    obtain rfl : lines = [] := by simpa using h
    exact ⟨[], .nil, rfl⟩
  | f :: files, lines, h => by
    rw [List.flatMap_cons, List.filterMap_append, List.map_eq_append_iff] at h
    obtain ⟨here, later, rfl, hhere, hlater⟩ := h
    obtain ⟨block, hblock, hfile⟩ := exists_isBlock_of_fields hhere
    obtain ⟨blocks, hblocks, hfiles⟩ := exists_isIndex_of_fields hlater
    exact ⟨block :: blocks, .cons hblock hblocks, by simp [hfile, hfiles]⟩

/-! ## Reading the written lines -/

theorem splittable_written (style : Style) (lines : List Line) :
    Splittable ((lines.filterMap (Line.body style)).map String.ofList) := by
  intro raw hraw
  obtain ⟨cs, hcs, rfl⟩ := List.mem_map.1 hraw
  obtain ⟨line, -, hline⟩ := List.mem_filterMap.1 hcs
  exact ⟨_, split_body hline⟩

/-- The lines of a written layout have the fields of its records. -/
theorem fields_fieldLines_written (style : Style) :
    ∀ (lines : List Line) (n : Nat),
      (fieldLines n ((lines.filterMap (Line.body style)).map String.ofList)).map FieldLine.fields =
        lines.filterMap Line.fields?
  | [], n => rfl
  | line :: lines, n => by
    rcases hb : line.body style with _ | cs
    · have hf : line.fields? = none := by
        cases style <;> cases line <;> first | rfl | cases hb
      rw [List.filterMap_cons, List.filterMap_cons, hb, hf]
      exact fields_fieldLines_written style lines n
    · have hsplit := split_body hb
      rw [List.filterMap_cons, List.filterMap_cons, hb, List.map_cons, fieldLines, hsplit]
      rcases hf : line.fields? with _ | fields
      · exact fields_fieldLines_written style lines (n + 1)
      · rcases fields with _ | ⟨head, fields⟩
        · rcases line with ⟨_, _ | _⟩ | _ <;> cases hf
        · simp [fields_fieldLines_written style lines (n + 1)]

end Layout

open Grammar Layout

/-- The written text is one block for each file, and reads as the index of these files. -/
theorem parse_writeAll_eq (style : Style) (files : List FileIndex) :
    ∃ blocks, blocks.map WrittenBlock.file = files.map FileIndex.recorded ∧
      Index.parse (writeAll style files) =
        ⟨duplicates [] blocks, .ok (Index.ofFiles (files.map FileIndex.recorded))⟩ := by
  have hfields := fields_fieldLines_written style (files.flatMap ofFile) 0
  obtain ⟨blocks, hblocks, hfiles⟩ := exists_isIndex_of_fields hfields
  refine ⟨blocks, hfiles, parse_eq_ok_iff.2 ?_⟩
  rw [lines_writeAll]
  exact ⟨splittable_written style _, blocks, hblocks, by rw [hfiles], rfl⟩

/-- Reading what was written gives the files' index, in both styles. Files of distinct names whose
declarations have a descriptor exactly if they are methods come back as they were, in order. -/
theorem parse_writeAll (style : Style) (files : List FileIndex) :
    (Index.parse (writeAll style files)).outcome =
        .ok (Index.ofFiles (files.map FileIndex.recorded)) ∧
      (Index.ofFiles (files.map FileIndex.recorded)).Collects (files.map FileIndex.recorded) ∧
      ((files.map FileIndex.filename).Nodup →
        (∀ f ∈ files, ∀ d ∈ f.declarations, d.desc.isSome ↔ d.kind = .method) →
        ∃ index, (Index.parse (writeAll style files)).outcome = .ok index ∧
          index.entries = files.map fun f => (f.filename, f)) := by
  obtain ⟨blocks, -, hparse⟩ := parse_writeAll_eq style files
  have houtcome := congrArg Reading.outcome hparse
  refine ⟨houtcome, Index.collects_iff.2 rfl, fun hnames hdescs => ?_⟩
  have hsame : files.map FileIndex.recorded = files :=
    FileIndex.map_recorded_eq_self fun f hf d hd =>
      Declaration.normalize_eq_self_iff.2 (hdescs f hf d hd)
  refine ⟨_, houtcome, ?_⟩
  rw [hsame]
  exact Index.entries_ofFiles_of_nodup hnames

/-- Two files, not in the order of their names, with crossing declarations and names that have to be
quoted. -/
def twoFiles : List FileIndex :=
  [⟨"b\n#.java", "", [⟨⟨7, 1⟩, " x", .package⟩, ⟨⟨2, 4⟩, "\"", .field "a/B"⟩],
      [⟨.type, ⟨0, 5⟩, "a/B", none⟩, ⟨.method, ⟨3, 9⟩, "run\r", some "()V"⟩], []⟩,
    ⟨"a", "h", [], [], [⟨⟨"m/M", "getX", "()I"⟩, ⟨"a/B", "x", "I"⟩, "get"⟩]⟩]

theorem parse_writeAll_twoFiles :
    (twoFiles.map FileIndex.filename).Nodup ∧
      (∀ f ∈ twoFiles, ∀ d ∈ f.declarations, d.desc.isSome ↔ d.kind = .method) ∧
      ∃ index, (Index.parse (writeAll .pretty twoFiles)).outcome = .ok index ∧
        index.entries = twoFiles.map fun f => (f.filename, f) :=
  have hnames : (twoFiles.map FileIndex.filename).Nodup := by decide
  have hdescs : ∀ f ∈ twoFiles, ∀ d ∈ f.declarations, d.desc.isSome ↔ d.kind = .method := by decide
  ⟨hnames, hdescs, (parse_writeAll .pretty twoFiles).2.2 hnames hdescs⟩

end RangeIndex
