import RangeIndex.Proofs.Merge

/-!
# Indentation and containment

Declarations are closed from the inside out, and only the innermost one is looked at. In a sorted
file whose declarations are nested or apart that is enough: `Encloses` says that the ends of the
open declarations never come earlier towards the outside, and that of the declarations written so
far none is missing that reaches past the next items. Each move of a layout keeps it, and where an
item is written, exactly the declarations that reach past its start are open
(`Encloses.opened_eq`).

So in the pretty text the indentation of an occurrence counts the declarations that contain its
start, and that of a declaration the earlier ones that reach past its start.
-/

namespace RangeIndex

def Span.contains (s : Span) (pos : UInt32) : Bool :=
  s.start ≤ pos && pos < s.stop

namespace Layout

/-- The first declaration ends at or before the start of the second one, or at or after its end. -/
def ApartOrAround (a b : Declaration) : Prop :=
  a.span.stop ≤ b.span.start ∨ b.span.stop ≤ a.span.stop

instance : DecidableRel ApartOrAround := fun a b =>
  inferInstanceAs (Decidable (a.span.stop ≤ b.span.start ∨ b.span.stop ≤ a.span.stop))

/-! ## The open declarations -/

/-- `opened` are the open ones, from the inside out, among the declarations `earlier` that were
written before `items`. -/
structure Encloses (earlier opened : List Declaration) (items : List Item) : Prop where
  sorted : items.Pairwise fun a b => a.start ≤ b.start
  nested : (earlier ++ items.filterMap Item.declaration?).Pairwise ApartOrAround
  outward : opened.Pairwise fun a b => a.span.stop ≤ b.span.stop
  around : ∀ item ∈ items, (opened.filter fun d => item.start < d.span.stop) =
    earlier.reverse.filter fun d => item.start < d.span.stop

namespace Encloses

variable {earlier opened outer : List Declaration} {items : List Item}

theorem close {d : Declaration} (h : Encloses earlier (d :: outer) items) (hover : isOver d items) :
    Encloses earlier outer items := by
  refine ⟨h.sorted, h.nested, (List.pairwise_cons.1 h.outward).2, fun item hitem => ?_⟩
  -- `d` ends at or before the next item, and so before the later ones.
  have hd : ¬ item.start < d.span.stop := by
    cases items with
    | nil => cases hitem
    | cons first items =>
      have hstop : d.span.stop ≤ first.start := by simpa [isOver] using hover
      have hfirst : first.start ≤ item.start := by
        rcases List.mem_cons.1 hitem with rfl | hitem
        · exact UInt32.le_refl _
        · exact (List.pairwise_cons.1 h.sorted).1 item hitem
      exact UInt32.not_lt.2 (UInt32.le_trans hstop hfirst)
  have haround := h.around item hitem
  rwa [List.filter_cons_of_neg (by simpa using hd)] at haround

/-- Where the innermost open declaration goes on, all of them do, so the open declarations are those
that reach past the next item's start. -/
theorem opened_eq {item : Item} (h : Encloses earlier opened (item :: items))
    (hopen : GoesOn opened (item :: items)) :
    opened = earlier.reverse.filter fun d => item.start < d.span.stop := by
  rw [← h.around item List.mem_cons_self, eq_comm, List.filter_eq_self]
  intro d hd
  cases opened with
  | nil => cases hd
  | cons inner outer =>
    have hinner : item.start < inner.span.stop := by simpa [isOver] using hopen inner rfl
    rcases List.mem_cons.1 hd with rfl | hd
    · simpa using hinner
    · have houtward := (List.pairwise_cons.1 h.outward).1 d hd
      simpa using UInt32.lt_of_lt_of_le hinner houtward

theorem declaration {d : Declaration} (h : Encloses earlier opened (.declaration d :: items))
    (hopen : GoesOn opened (.declaration d :: items)) :
    Encloses (earlier ++ [d]) (d :: opened) items := by
  have hnested : (earlier ++ [d] ++ items.filterMap Item.declaration?).Pairwise ApartOrAround := by
    simpa [List.filterMap_cons] using h.nested
  refine ⟨(List.pairwise_cons.1 h.sorted).2, hnested, List.pairwise_cons.2 ⟨?_, h.outward⟩, ?_⟩
  · -- What is open reaches past the start of `d`, so it is not apart from `d` but around it.
    intro e he
    rw [h.opened_eq hopen, List.mem_filter, List.mem_reverse, decide_eq_true_eq] at he
    obtain ⟨hearlier, hstop⟩ := he
    have hpair := (List.pairwise_append.1 (List.pairwise_append.1 hnested).1).2.2 e hearlier d
      List.mem_cons_self
    exact hpair.resolve_left (UInt32.not_le.2 hstop)
  · intro item hitem
    rw [List.reverse_append, List.reverse_singleton, List.singleton_append, List.filter_cons,
      List.filter_cons, h.around item (List.mem_cons_of_mem _ hitem)]

theorem occurrence {o : Occurrence} (h : Encloses earlier opened (.occurrence o :: items)) :
    Encloses earlier opened items := by
  refine ⟨(List.pairwise_cons.1 h.sorted).2, ?_, h.outward, fun item hitem => ?_⟩
  · simpa [List.filterMap_cons] using h.nested
  · exact h.around item (List.mem_cons_of_mem _ hitem)

end Encloses

theorem encloses_weave {os : List Occurrence} {ds : List Declaration}
    (ho : os.Pairwise fun a b => a.span.start ≤ b.span.start)
    (hd : ds.Pairwise fun a b => a.span.start ≤ b.span.start) (hn : ds.Pairwise ApartOrAround) :
    Encloses [] [] (weave os ds) := by
  have hmerge := isMerge_weave ho hd
  refine ⟨hmerge.ordered.imp fun h => h.1, ?_, .nil, fun _ _ => rfl⟩
  rwa [List.nil_append, hmerge.declarations]

/-- The declarations before an occurrence are those that do not start after it. -/
theorem declarations_before {before after : List Item} {o : Occurrence}
    (h : (before ++ .occurrence o :: after).Pairwise Item.Precedes) :
    before.filterMap Item.declaration? =
      ((before ++ .occurrence o :: after).filterMap Item.declaration?).filter fun d =>
        d.span.start ≤ o.span.start := by
  obtain ⟨-, hrest, hcross⟩ := List.pairwise_append.1 h
  have hbefore : ∀ d ∈ before.filterMap Item.declaration?, d.span.start ≤ o.span.start := by
    intro d hd
    have hprecedes := hcross _ (mem_declarations_iff.1 hd) _ List.mem_cons_self
    exact declaration_precedes_occurrence.1 hprecedes
  have hafter : ∀ d ∈ after.filterMap Item.declaration?, ¬ d.span.start ≤ o.span.start := by
    intro d hd
    have hprecedes := (List.pairwise_cons.1 hrest).1 _ (mem_declarations_iff.1 hd)
    exact UInt32.not_le.2 (occurrence_precedes_declaration.1 hprecedes)
  rw [List.filterMap_append, List.filter_append, List.filter_eq_self.2 (by simpa using hbefore)]
  simp only [List.filterMap_cons, Item.declaration?_occurrence]
  rw [List.filter_eq_nil_iff.2 (by simpa using hafter), List.append_nil]

/-! ## Indentation -/

/-- The number of declarations that reach past a position. -/
def depthAt (earlier : List Declaration) (pos : UInt32) : Nat :=
  earlier.countP fun d => pos < d.span.stop

/-- Each item with its depth after the declarations before it. -/
def levels (earlier : List Declaration) : List Item → List (Nat × Item)
  | [] => []
  | item :: items =>
    (depthAt earlier item.start, item) :: levels (earlier ++ item.declaration?.toList) items

theorem Encloses.length_eq {earlier opened : List Declaration} {item : Item} {items : List Item}
    (h : Encloses earlier opened (item :: items)) (hopen : GoesOn opened (item :: items)) :
    opened.length = depthAt earlier item.start := by
  rw [h.opened_eq hopen, List.filter_reverse, List.length_reverse, depthAt,
    List.countP_eq_length_filter]

theorem records_nest (opened : List Declaration) (items : List Item) :
    ∀ earlier, Encloses earlier opened items →
      (((nest opened items).filterMap (Line.body .pretty)).filter fun line =>
          !Text.isComment line) =
        (levels earlier items).map fun r => recordText r.1 r.2.fields := by
  induction opened, items using nest_induction with
  | finished => intro earlier _; rfl
  | close d outer items hover ih =>
    intro earlier h
    rw [nest_close hover, List.filterMap_cons_some (body_closing _ _), List.filter_cons_of_neg ?_]
    · exact ih earlier (h.close hover)
    · simp [endText, isComment_comment]
  | declaration opened d items hopen ih =>
    intro earlier h
    have hlength := h.length_eq hopen
    rw [nest_declaration hopen, List.filterMap_cons_some (body_record _ _),
      List.filterMap_cons_some (body_start _ _), List.filter_cons_of_pos ?_,
      List.filter_cons_of_neg ?_, ih (earlier ++ [d]) (h.declaration hopen), hlength]
    · rfl
    · simp [startText, isComment_comment]
    · simp [recordText, isComment_record]
  | occurrence opened o items hopen ih =>
    intro earlier h
    have hlength := h.length_eq hopen
    rw [nest_occurrence hopen, List.filterMap_cons_some (body_record _ _),
      List.filter_cons_of_pos ?_, ih earlier h.occurrence, hlength]
    · simp [levels, Item.fields, Item.start]
    · simp [recordText, isComment_record]

theorem records_linkText (links : List AccessorLink) :
    (linkText links).filter (fun line => !Text.isComment line) =
      links.map fun l => recordText 1 ("meta" :: AccessorLink.token :: l.write) := by
  unfold linkText
  split
  · rename_i h
    simp [List.isEmpty_iff.1 h]
  · have hstart : Text.isComment "# Start Meta".toList = true := by decide
    have hend : Text.isComment "# End Meta".toList = true := by decide
    rw [List.cons_append, List.filter_cons_of_neg (by rw [hstart]; decide), List.filter_append,
      List.filter_cons_of_neg (by rw [hend]; decide), List.filter_nil, List.append_nil,
      List.filter_eq_self]
    intro line hline
    obtain ⟨l, -, rfl⟩ := List.mem_map.1 hline
    simp [recordText, isComment_record]

theorem filter_contains (ds : List Declaration) (pos : UInt32) :
    (ds.filter fun d => d.span.contains pos) =
      (ds.filter fun d => d.span.start ≤ pos).filter fun d => pos < d.span.stop := by
  rw [List.filter_filter]
  simp [Span.contains, Bool.and_comm]

theorem countP_contains (ds : List Declaration) (pos : UInt32) :
    ds.countP (fun d => d.span.contains pos) =
      depthAt (ds.filter fun d => d.span.start ≤ pos) pos := by
  rw [List.countP_eq_length_filter, filter_contains, depthAt, List.countP_eq_length_filter]

theorem occurrences_levels : ∀ (items before : List Item),
    (before ++ items).Pairwise Item.Precedes →
    (levels (before.filterMap Item.declaration?) items).filterMap
        (fun r => r.2.occurrence?.map (r.1, ·)) =
      (items.filterMap Item.occurrence?).map fun o =>
        (((before ++ items).filterMap Item.declaration?).countP fun d =>
          d.span.contains o.span.start, o)
  | [], _, _ => rfl
  | .declaration d :: items, before, h => by
    have ih := occurrences_levels items (before ++ [.declaration d]) (by simpa using h)
    simpa [levels, List.filterMap_cons] using ih
  | .occurrence o :: items, before, h => by
    have ih := occurrences_levels items (before ++ [.occurrence o]) (by simpa using h)
    have hdepth : depthAt (before.filterMap Item.declaration?) o.span.start =
        ((before ++ .occurrence o :: items).filterMap Item.declaration?).countP fun d =>
          d.span.contains o.span.start := by
      rw [countP_contains, declarations_before h]
    simpa [levels, List.filterMap_cons, Item.start, hdepth] using ih

theorem declarations_levels : ∀ (items : List Item) (earlier : List Declaration),
    (levels earlier items).filterMap (fun r => r.2.declaration?.map (r.1, ·)) =
      (items.filterMap Item.declaration?).mapIdx fun i d =>
        (depthAt (earlier ++ (items.filterMap Item.declaration?).take i) d.span.start, d)
  | [], _ => rfl
  | .declaration d :: items, earlier => by
    have ih := declarations_levels items (earlier ++ [d])
    simpa [levels, List.filterMap_cons, Item.start] using ih
  | .occurrence o :: items, earlier => by
    have ih := declarations_levels items earlier
    simpa [levels, List.filterMap_cons] using ih

/-! ## Printers -/

namespace Printer

theorem opened_write (p : Printer) (item : Item) :
    (p.write item).opened = item.declaration?.toList ++ p.opened ∧
      (p.write item).items = p.items := by
  cases item <;> exact ⟨rfl, rfl⟩

/-- A printer that moves closes the innermost open declaration, or writes the next item. -/
theorem next_cases {p q : Printer} (h : p.step = .next q) :
    (∃ d, p.opened = d :: q.opened ∧ isOver d p.items ∧ q.items = p.items) ∨
      GoesOn p.opened p.items ∧
        ∃ item, p.items = item :: q.items ∧ q.opened = item.declaration?.toList ++ p.opened := by
  rcases exists_isOver_or_goesOn p.opened p.items with ⟨d, outer, hopened, hover⟩ | hopen
  · left
    obtain ⟨written, depth, opened, items⟩ := p
    obtain rfl : opened = d :: outer := hopened
    cases depth with
    | zero => simp [step, hover, close?, shallower?] at h
    | succ depth =>
      simp only [step, hover, if_true, close?, shallower?, Option.map_some, comment,
        Move.next.injEq] at h
      subst h
      exact ⟨d, rfl, hover, rfl⟩
  · right
    rw [step_of_goesOn hopen, advance] at h
    refine ⟨hopen, ?_⟩
    split at h
    · cases h
    · rename_i item items hitems
      simp only [Move.next.injEq] at h
      subst h
      obtain ⟨hopened, hrest⟩ := opened_write { p with items } item
      exact ⟨item, by rw [hitems, hrest], hopened⟩

/-- A run keeps the open declarations right: some items are written, and the others are still to
come. -/
theorem Reaches.encloses {p q : Printer} (hrun : p.Reaches q) :
    ∀ {earlier}, Encloses earlier p.opened p.items → ∃ done, p.items = done ++ q.items ∧
      Encloses (earlier ++ done.filterMap Item.declaration?) q.opened q.items := by
  induction hrun with
  | refl p => exact fun h => ⟨[], rfl, by simpa using h⟩
  | @step p q r hstep _ ih =>
    intro earlier h
    rcases next_cases hstep with ⟨d, hopened, hover, hitems⟩ | ⟨hopen, item, hitems, hopened⟩
    · rw [hopened] at h
      have hclose := h.close hover
      rw [← hitems] at hclose ⊢
      exact ih hclose
    · rw [hitems] at h hopen ⊢
      have hwrite : Encloses (earlier ++ item.declaration?.toList) q.opened q.items := by
        rw [hopened]
        cases item with
        | declaration d => exact h.declaration hopen
        | occurrence o => simpa using h.occurrence
      obtain ⟨done, hdone, hafter⟩ := ih hwrite
      refine ⟨item :: done, by rw [hdone, List.cons_append], ?_⟩
      cases item <;> simpa [List.filterMap_cons] using hafter

end Printer

/-! ## Whole blocks -/

theorem records_toText_pretty {f : FileIndex}
    (h : Encloses [] [] (weave f.occurrences f.declarations)) :
    ((f.toText .pretty).toList.splitOn '\n').filter (fun line => !Text.isComment line) =
      recordText 0 ["start", Text.writeNumeral formatVersion, f.filename, f.hash] ::
        ((f.links.map fun l => recordText 1 ("meta" :: AccessorLink.token :: l.write)) ++
          ((levels [] (weave f.occurrences f.declarations)).map fun r =>
            recordText r.1 r.2.fields) ++
          ["end".toList, []]) := by
  have hend : ["end".toList, []].filter (fun line => !Text.isComment line) =
    ["end".toList, []] := by decide
  rw [splitOn_toText_pretty, List.filter_cons_of_pos (by simp [recordText, isComment_record]),
    List.filter_append, List.filter_append, records_linkText, records_nest _ _ [] h, hend]

/-- In a sorted file whose declarations are nested or apart, the indentation of the pretty text
shows what contains what. An occurrence's record is indented by two spaces for each declaration that
contains its start, and while it is written just these are open. A declaration's record is indented
by two spaces for each earlier declaration that reaches past its start. -/
theorem indented_by_containment (f : FileIndex)
    (ho : f.occurrences.Pairwise fun a b => a.span.start ≤ b.span.start)
    (hd : f.declarations.Pairwise fun a b => a.span.start ≤ b.span.start)
    (hn : f.declarations.Pairwise ApartOrAround) :
    (∃ records : List (Nat × Item),
      ((f.toText .pretty).toList.splitOn '\n').filter (fun line => !Text.isComment line) =
        recordText 0 ["start", Text.writeNumeral formatVersion, f.filename, f.hash] ::
          ((f.links.map fun l => recordText 1 ("meta" :: AccessorLink.token :: l.write)) ++
            (records.map fun r => recordText r.1 r.2.fields) ++ ["end".toList, []]) ∧
      (records.filterMap fun r => r.2.occurrence?.map (r.1, ·)) =
        f.occurrences.map (fun o =>
          (f.declarations.countP fun d => d.span.contains o.span.start, o)) ∧
      (records.filterMap fun r => r.2.declaration?.map (r.1, ·)) =
        f.declarations.mapIdx fun i d =>
          ((f.declarations.take i).countP fun e => d.span.start < e.span.stop, d)) ∧
    ∀ p q r o, Printer.begin? f = some p → p.Reaches q → q.step = .next r →
      q.items = .occurrence o :: r.items →
      q.opened = (f.declarations.filter fun d => d.span.contains o.span.start).reverse := by
  have hmerge := isMerge_weave ho hd
  have hencloses := encloses_weave ho hd hn
  refine ⟨⟨_, records_toText_pretty hencloses, ?_, ?_⟩, ?_⟩
  · have hlevels := occurrences_levels _ [] (by simpa using hmerge.ordered)
    rw [hmerge.occurrences, List.nil_append, hmerge.declarations] at hlevels
    exact hlevels
  · have hlevels := declarations_levels (weave f.occurrences f.declarations) []
    rw [hmerge.declarations] at hlevels
    exact hlevels
  · intro p q r o hp hrun hstep hitems
    rw [Printer.begin?_eq, Option.some.injEq] at hp
    subst hp
    obtain ⟨done, hdone, hq⟩ := hrun.encloses hencloses
    have hopen : GoesOn q.opened q.items := by
      -- Closing a declaration would leave the items as they are.
      rcases Printer.next_cases hstep with ⟨d, -, -, hsame⟩ | ⟨hopen, -⟩
      · simp [hitems] at hsame
      · exact hopen
    have hordered := hmerge.ordered
    simp only [hitems] at hdone hq hopen
    rw [hdone] at hordered
    rw [hq.opened_eq hopen, List.nil_append, declarations_before hordered, ← hdone,
      hmerge.declarations, List.filter_reverse, filter_contains]
    rfl

theorem indented_by_containment_tied :
    (tied.occurrences.Pairwise fun a b => a.span.start ≤ b.span.start) ∧
    (tied.declarations.Pairwise fun a b => a.span.start ≤ b.span.start) ∧
    tied.declarations.Pairwise ApartOrAround ∧
    ∃ records : List (Nat × Item),
      ((tied.toText .pretty).toList.splitOn '\n').filter (fun line => !Text.isComment line) =
        "start 1 a h".toList ::
          ((records.map fun r => recordText r.1 r.2.fields) ++ ["end".toList, []]) ∧
      (records.filterMap fun r => r.2.occurrence?.map (r.1, ·)).map Prod.fst = [1, 2, 0] ∧
      (records.filterMap fun r => r.2.declaration?.map (r.1, ·)).map Prod.fst = [0, 1, 2, 1] := by
  have ho : tied.occurrences.Pairwise fun a b => a.span.start ≤ b.span.start := by decide
  have hd : tied.declarations.Pairwise fun a b => a.span.start ≤ b.span.start := by decide
  have hn : tied.declarations.Pairwise ApartOrAround := by decide
  obtain ⟨⟨records, htext, hos, hds⟩, -⟩ := indented_by_containment tied ho hd hn
  refine ⟨ho, hd, hn, records, ?_, ?_, ?_⟩
  · rw [htext]
    rfl
  · rw [hos]
    decide
  · rw [hds]
    decide

end Layout

end RangeIndex
