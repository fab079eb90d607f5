import Mathlib.Data.List.Sort
import RangeIndex.Proofs.Nesting

/-!
# The order of the records in a block

Between its links and its end, a block has one record for each declaration and each occurrence of
the file. If both lists are sorted by start, so are the records: `IsMerge` says which lists of items
are such a merge, and `weave` gives the only one there is (`isMerge_iff`). The records of a text are
those of the merged items, in either style.
-/

namespace RangeIndex.Layout

/-! ## Items in order -/

/-- One item goes before another: it starts no later, and where both start at the same place it is
not an occurrence before a declaration. -/
def Item.Precedes (a b : Item) : Prop :=
  a.start ≤ b.start ∧ (a.start = b.start → b.declaration?.isSome → a.declaration?.isSome)

instance : DecidableRel Item.Precedes := fun a b =>
  inferInstanceAs (Decidable (a.start ≤ b.start ∧ (_ → _ → _)))

instance : IsTrans Item Item.Precedes where
  trans a b c := by
    rintro ⟨hab, hab'⟩ ⟨hbc, hbc'⟩
    refine ⟨UInt32.le_trans hab hbc, fun hac hc => ?_⟩
    -- If the outer two start at the same place, so does the one between them.
    have hb : a.start = b.start := UInt32.le_antisymm hab (hac ▸ hbc)
    exact hab' hb (hbc' (hb.symm.trans hac) hc)

instance : Std.Total Item.Precedes where
  total a b := by
    unfold Item.Precedes
    grind

theorem declaration_precedes_occurrence {d : Declaration} {o : Occurrence} :
    (Item.declaration d).Precedes (.occurrence o) ↔ d.span.start ≤ o.span.start := by
  simp [Item.Precedes, Item.start]

theorem occurrence_precedes_declaration {d : Declaration} {o : Occurrence} :
    (Item.occurrence o).Precedes (.declaration d) ↔ o.span.start < d.span.start := by
  simp only [Item.Precedes, Item.start, Item.declaration?_declaration, Item.declaration?_occurrence]
  grind

theorem mem_occurrences_iff {items : List Item} {o : Occurrence} :
    o ∈ items.filterMap Item.occurrence? ↔ .occurrence o ∈ items := by
  simp [List.mem_filterMap, Item.occurrence?_eq_some_iff]

theorem mem_declarations_iff {items : List Item} {d : Declaration} :
    d ∈ items.filterMap Item.declaration? ↔ .declaration d ∈ items := by
  simp [List.mem_filterMap, Item.declaration?_eq_some_iff]

/-- All occurrences and all declarations, in their own order and in order of start. -/
structure IsMerge (os : List Occurrence) (ds : List Declaration) (items : List Item) : Prop where
  ordered : items.Pairwise Item.Precedes
  occurrences : items.filterMap Item.occurrence? = os
  declarations : items.filterMap Item.declaration? = ds

/-! ## Weaving -/

section Weave

variable {os : List Occurrence} {ds : List Declaration}

theorem weave_eq_merge (os : List Occurrence) (ds : List Declaration) :
    weave os ds =
      (ds.map .declaration).merge (os.map .occurrence) fun a b => decide (a.Precedes b) := by
  fun_induction weave os ds with
  | case1 ds => simp
  | case2 os => simp
  | case3 o os d ds h ih => simp [declaration_precedes_occurrence, h, ih]
  | case4 o os d ds h ih => simp [declaration_precedes_occurrence, h, ih]

theorem isMerge_weave (ho : os.Pairwise fun a b => a.span.start ≤ b.span.start)
    (hd : ds.Pairwise fun a b => a.span.start ≤ b.span.start) : IsMerge os ds (weave os ds) := by
  refine ⟨?_, occurrences_weave os ds, declarations_weave os ds⟩
  have hds : (ds.map Item.declaration).Pairwise Item.Precedes :=
    List.pairwise_map.2 (hd.imp fun h => ⟨h, fun _ _ => rfl⟩)
  have hos : (os.map Item.occurrence).Pairwise Item.Precedes :=
    List.pairwise_map.2 (ho.imp fun h => ⟨h, fun _ hb => by cases hb⟩)
  rw [weave_eq_merge]
  exact hds.merge hos

theorem weave_declaration {d : Declaration}
    (h : ∀ o ∈ os, (Item.declaration d).Precedes (.occurrence o)) :
    weave os (d :: ds) = .declaration d :: weave os ds := by
  cases os with
  | nil => simp [weave]
  | cons o os =>
    have hd := declaration_precedes_occurrence.1 (h o (by simp))
    rw [weave, if_pos hd]

theorem weave_occurrence {o : Occurrence}
    (h : ∀ d ∈ ds, (Item.occurrence o).Precedes (.declaration d)) :
    weave (o :: os) ds = .occurrence o :: weave os ds := by
  cases ds with
  | nil => cases os <;> simp [weave]
  | cons d ds =>
    have ho := occurrence_precedes_declaration.1 (h d (by simp))
    rw [weave, if_neg (UInt32.not_le.2 ho)]

/-- Items in order are what weaving their occurrences and declarations gives. -/
theorem weave_of_ordered {items : List Item} (h : items.Pairwise Item.Precedes) :
    weave (items.filterMap Item.occurrence?) (items.filterMap Item.declaration?) = items := by
  induction items with
  | nil => simp [weave]
  | cons item items ih =>
    obtain ⟨hfirst, hrest⟩ := List.pairwise_cons.1 h
    cases item with
    | declaration d =>
      simp only [List.filterMap_cons, Item.occurrence?_declaration, Item.declaration?_declaration]
      rw [weave_declaration fun o ho => hfirst _ (mem_occurrences_iff.1 ho), ih hrest]
    | occurrence o =>
      simp only [List.filterMap_cons, Item.occurrence?_occurrence, Item.declaration?_occurrence]
      rw [weave_occurrence fun d hd => hfirst _ (mem_declarations_iff.1 hd), ih hrest]

theorem isMerge_iff (ho : os.Pairwise fun a b => a.span.start ≤ b.span.start)
    (hd : ds.Pairwise fun a b => a.span.start ≤ b.span.start) {items : List Item} :
    IsMerge os ds items ↔ items = weave os ds := by
  constructor
  · rintro ⟨hordered, rfl, rfl⟩
    exact (weave_of_ordered hordered).symm
  · rintro rfl
    exact isMerge_weave ho hd

end Weave

/-! ## Records -/

theorem body_linkLines_compact (links : List AccessorLink) :
    (linkLines links).filterMap (Line.body .compact) =
      links.map fun l => (Field.join ("meta" :: AccessorLink.token :: l.write)).toList := by
  unfold linkLines
  split
  · rename_i h
    simp [List.isEmpty_iff.1 h]
  · simp [Line.body, List.filterMap_cons, List.filterMap_map, Function.comp_def]

theorem body_nest_compact (opened : List Declaration) (items : List Item) :
    (nest opened items).filterMap (Line.body .compact) =
      items.map fun item => (Field.join item.fields).toList := by
  induction opened, items using nest_induction with
  | finished => rfl
  | close d outer items hover ih => rw [nest_close hover, List.filterMap_cons_none rfl, ih]
  | declaration opened d items hopen ih =>
    rw [nest_declaration hopen]
    simp [Line.body, List.filterMap_cons, Item.fields, ih]
  | occurrence opened o items hopen ih =>
    rw [nest_occurrence hopen]
    simp [Line.body, Item.fields, ih]

/-- Without layout, the lines of a text are the records of its block, and nothing is left after the
last line end. -/
theorem eraseLines_toText (style : Style) (f : FileIndex) :
    Text.eraseLines ((f.toText style).toList.splitOn '\n') =
      (["start", Text.writeNumeral formatVersion, f.filename, f.hash] ::
        ((f.links.map fun l => "meta" :: AccessorLink.token :: l.write) ++
          (weave f.occurrences f.declarations).map Item.fields ++ [["end"]])).map
        (fun fields => (Field.join fields).toList) ++ [[]] := by
  have hlast : Text.eraseLines [[]] = [[]] := rfl
  rw [splitOn_toText, Text.eraseLines, List.filter_append, List.map_append, ← Text.eraseLines,
    ← Text.eraseLines, eraseLines_body, hlast, ofFile]
  simp [List.filterMap_append, body_linkLines_compact, body_nest_compact, Line.body,
    Function.comp_def]

/-- The records of a sorted file, in either style: between the links and the end stand its
occurrences and its declarations, all of them and each in their own order, by start, and the
declarations of a start before the occurrences of that start. There is no other such order. -/
theorem records_are_merged (style : Style) (f : FileIndex)
    (ho : f.occurrences.Pairwise fun a b => a.span.start ≤ b.span.start)
    (hd : f.declarations.Pairwise fun a b => a.span.start ≤ b.span.start) :
    ∃ items, IsMerge f.occurrences f.declarations items ∧
      (∀ other, IsMerge f.occurrences f.declarations other → other = items) ∧
      Text.eraseLines ((f.toText style).toList.splitOn '\n') =
        (["start", Text.writeNumeral formatVersion, f.filename, f.hash] ::
          ((f.links.map fun l => "meta" :: AccessorLink.token :: l.write) ++
            items.map Item.fields ++ [["end"]])).map
          (fun fields => (Field.join fields).toList) ++ [[]] := by
  refine ⟨weave f.occurrences f.declarations, isMerge_weave ho hd, ?_, eraseLines_toText style f⟩
  intro other hother
  exact (isMerge_iff ho hd).1 hother

/-- A file with declarations that touch, that are empty, that would end past the last offset, and
that start where an occurrence does. -/
def tied : FileIndex :=
  ⟨"a", "h",
    [⟨⟨1, 1⟩, "x", .package⟩, ⟨⟨4, 1⟩, "y", .package⟩, ⟨⟨4294967295, 1⟩, "z", .package⟩],
    [⟨.type, ⟨1, 4294967295⟩, "A", none⟩, ⟨.method, ⟨4, 2⟩, "m", some "()V"⟩,
      ⟨.type, ⟨4, 0⟩, "B", none⟩, ⟨.method, ⟨6, 9⟩, "n", some "()V"⟩],
    []⟩

theorem records_are_merged_tied :
    (tied.occurrences.Pairwise fun a b => a.span.start ≤ b.span.start) ∧
    (tied.declarations.Pairwise fun a b => a.span.start ≤ b.span.start) ∧
    Text.eraseLines ((tied.toText .pretty).toList.splitOn '\n') =
      ["start 1 a h", "classdef 1 4294967295 A", "package 1 1 x", "methoddef 4 2 m ()V",
        "classdef 4 0 B", "package 4 1 y", "methoddef 6 9 n ()V", "package 4294967295 1 z", "end",
        ""].map String.toList := by
  have ho : tied.occurrences.Pairwise fun a b => a.span.start ≤ b.span.start := by decide
  have hd : tied.declarations.Pairwise fun a b => a.span.start ≤ b.span.start := by decide
  obtain ⟨items, -, hunique, htext⟩ := records_are_merged .pretty tied ho hd
  have hitems := hunique
    [.declaration ⟨.type, ⟨1, 4294967295⟩, "A", none⟩, .occurrence ⟨⟨1, 1⟩, "x", .package⟩,
      .declaration ⟨.method, ⟨4, 2⟩, "m", some "()V"⟩, .declaration ⟨.type, ⟨4, 0⟩, "B", none⟩,
      .occurrence ⟨⟨4, 1⟩, "y", .package⟩, .declaration ⟨.method, ⟨6, 9⟩, "n", some "()V"⟩,
      .occurrence ⟨⟨4294967295, 1⟩, "z", .package⟩] ⟨by decide, rfl, rfl⟩
  refine ⟨ho, hd, ?_⟩
  rw [htext, ← hitems]
  decide +kernel

end RangeIndex.Layout
