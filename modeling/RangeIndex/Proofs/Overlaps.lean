import Mathlib.Data.List.Forall2
import RangeIndex.Proofs.StableSort

/-!
# Overlapping occurrences

`overlaps` compares each occurrence with its neighbour only. In a list sorted by start it finds an
overlap for every occurrence that some later one overlaps, next to it or not: of all later ones the
neighbour starts first. `Overlapped` is the condition on a position that looks at all later ones,
and the reported pairs are the neighbours at just these positions, from the left
(`exists_positions`).

Ends stay within 32 bits. That makes no difference for an occurrence that starts before the last
offset (`Span.lt_stop_iff`).
-/

namespace RangeIndex

namespace Span

theorem toNat_stop_eq_min (s : Span) :
    s.stop.toNat = min (s.start.toNat + s.length.toNat) (UInt32.size - 1) := by
  rw [toNat_stop]
  split_ifs <;> omega

theorem lt_stop_iff {pos : UInt32} (hpos : pos.toNat < UInt32.size - 1) (s : Span) :
    pos < s.stop ↔ pos.toNat < s.start.toNat + s.length.toNat := by
  rw [UInt32.lt_iff_toNat_lt, toNat_stop_eq_min]
  omega

end Span

/-- A later occurrence starts before the one at position `i` ends. -/
def Overlapped (os : List Occurrence) (i : Nat) : Prop :=
  ∃ j first later, i < j ∧ os[i]? = some first ∧ os[j]? = some later ∧
    later.span.start < first.span.stop

/-- `pairs` are the neighbours at some positions, from the left. -/
structure NeighboursAt (os : List Occurrence) (positions : List Nat)
    (pairs : List (Occurrence × Occurrence)) : Prop where
  increasing : positions.Pairwise (· < ·)
  neighbours : List.Forall₂ (fun i pair => os[i]? = some pair.1 ∧ os[i + 1]? = some pair.2)
    positions pairs

section Sorted

variable {a b : Occurrence} {os : List Occurrence}

theorem overlaps_cons_cons (a b : Occurrence) (os : List Occurrence) :
    overlaps (a :: b :: os) =
      if b.span.start < a.span.stop then (a, b) :: overlaps (b :: os) else overlaps (b :: os) := by
  simp [overlaps, List.filter_cons]

theorem not_overlapped_singleton (a : Occurrence) (i : Nat) : ¬ Overlapped [a] i := by
  rintro ⟨j, first, later, hij, -, hj, -⟩
  have hlength := (List.getElem?_eq_some_iff.1 hj).1
  simp only [List.length_singleton] at hlength
  omega

theorem overlapped_succ_iff {i : Nat} : Overlapped (a :: os) (i + 1) ↔ Overlapped os i := by
  constructor
  · rintro ⟨j, first, later, hij, hi, hj, hlt⟩
    obtain ⟨k, rfl⟩ : ∃ k, j = k + 1 := ⟨j - 1, by omega⟩
    exact ⟨k, first, later, by omega, hi, hj, hlt⟩
  · rintro ⟨j, first, later, hij, hi, hj, hlt⟩
    exact ⟨j + 1, first, later, by omega, hi, hj, hlt⟩

/-- No later occurrence starts before the neighbour, so the neighbour decides. -/
theorem overlapped_zero_iff
    (hs : (b :: os).Pairwise fun x y => x.span.start ≤ y.span.start) :
    Overlapped (a :: b :: os) 0 ↔ b.span.start < a.span.stop := by
  constructor
  · rintro ⟨j, first, later, hij, hi, hj, hlt⟩
    obtain ⟨k, rfl⟩ : ∃ k, j = k + 1 := ⟨j - 1, by omega⟩
    simp only [List.getElem?_cons_zero, Option.some.injEq, List.getElem?_cons_succ] at hi hj
    subst hi
    have hle : b.span.start ≤ later.span.start := by
      rcases List.mem_cons.1 (List.mem_of_getElem? hj) with rfl | hlater
      · exact UInt32.le_refl _
      · exact (List.pairwise_cons.1 hs).1 later hlater
    exact UInt32.lt_of_le_of_lt hle hlt
  · exact fun hlt => ⟨1, a, b, Nat.one_pos, rfl, rfl, hlt⟩

theorem NeighboursAt.shift {positions : List Nat} {pairs : List (Occurrence × Occurrence)}
    (h : NeighboursAt os positions pairs) :
    NeighboursAt (a :: os) (positions.map (· + 1)) pairs := by
  refine ⟨List.pairwise_map.2 (h.increasing.imp fun hlt => Nat.succ_lt_succ hlt), ?_⟩
  rw [List.forall₂_map_left_iff]
  exact h.neighbours

theorem NeighboursAt.cons {positions : List Nat} {pairs : List (Occurrence × Occurrence)}
    (h : NeighboursAt (b :: os) positions pairs) :
    NeighboursAt (a :: b :: os) (0 :: positions.map (· + 1)) ((a, b) :: pairs) := by
  have hshift := h.shift (a := a)
  refine ⟨List.pairwise_cons.2 ⟨?_, hshift.increasing⟩, .cons ⟨rfl, rfl⟩ hshift.neighbours⟩
  intro i hi
  obtain ⟨k, -, rfl⟩ := List.mem_map.1 hi
  exact Nat.succ_pos k

/-- The reported pairs are the neighbours at the positions that something later overlaps. -/
theorem exists_positions : ∀ (os : List Occurrence),
    (os.Pairwise fun x y => x.span.start ≤ y.span.start) →
    ∃ positions, NeighboursAt os positions (overlaps os) ∧ ∀ i, i ∈ positions ↔ Overlapped os i
  | [], _ => by
    refine ⟨[], ⟨.nil, .nil⟩, fun i => ?_⟩
    simp [Overlapped]
  | [a], _ => ⟨[], ⟨.nil, .nil⟩, fun i => by simp [not_overlapped_singleton]⟩
  | a :: b :: os, hs => by
    have hrest := (List.pairwise_cons.1 hs).2
    obtain ⟨positions, hat, hmem⟩ := exists_positions (b :: os) hrest
    have hzero := overlapped_zero_iff (a := a) hrest
    rw [overlaps_cons_cons]
    split_ifs with hlt
    · refine ⟨0 :: positions.map (· + 1), hat.cons, fun i => ?_⟩
      cases i with
      | zero => simp [hzero, hlt]
      | succ i => simp [hmem, overlapped_succ_iff]
    · refine ⟨positions.map (· + 1), hat.shift, fun i => ?_⟩
      cases i with
      | zero => simp [hzero, hlt]
      | succ i => simp [hmem, overlapped_succ_iff]

theorem forall_not_overlapped_iff :
    (∀ i, ¬ Overlapped os i) ↔ os.Pairwise fun x y => x.span.stop ≤ y.span.start := by
  rw [List.pairwise_iff_getElem]
  constructor
  · intro h i j hi hj hij
    refine UInt32.not_lt.1 fun hlt => h i ?_
    exact ⟨j, os[i], os[j], hij, List.getElem?_eq_getElem hi, List.getElem?_eq_getElem hj, hlt⟩
  · rintro h i ⟨j, first, later, hij, hi, hj, hlt⟩
    obtain ⟨hfirst, rfl⟩ := List.getElem?_eq_some_iff.1 hi
    obtain ⟨hlater, rfl⟩ := List.getElem?_eq_some_iff.1 hj
    exact UInt32.not_lt.2 (h i j hfirst hlater hij) hlt

theorem overlaps_eq_nil_iff (hs : os.Pairwise fun x y => x.span.start ≤ y.span.start) :
    overlaps os = [] ↔ os.Pairwise fun x y => x.span.stop ≤ y.span.start := by
  obtain ⟨positions, hat, hmem⟩ := exists_positions os hs
  have hlength := hat.neighbours.length_eq
  rw [← forall_not_overlapped_iff, ← List.length_eq_zero_iff, ← hlength, List.length_eq_zero_iff,
    List.eq_nil_iff_forall_not_mem]
  simp only [hmem]

end Sorted

theorem Draft.records_buildEvents (d : Draft) :
    d.buildEvents.map IndexEvent.record =
      (overlaps d.build.occurrences).map fun pair =>
        ⟨.warn, "overlapping range entries",
          [("filename", .text d.filename), ("first", .text pair.1.display),
            ("second", .text pair.2.display)]⟩ := by
  rw [Draft.buildEvents, List.map_map]
  rfl

/-- Comparing neighbours misses no overlap: in a list sorted by start, the pairs that are reported
are the neighbours at the positions whose occurrence some later one overlaps, each once and from the
left. None is reported just if no occurrence reaches past the start of a later one. Ends are cut off
at the last offset, which changes nothing for an occurrence that starts before it. A draft that is
built warns of the pairs among its sorted occurrences, once for each and in their order. -/
theorem neighbours_find_overlaps (os : List Occurrence)
    (hs : os.Pairwise fun x y => x.span.start ≤ y.span.start) :
    (∃ positions, NeighboursAt os positions (overlaps os) ∧
      ∀ i, i ∈ positions ↔ Overlapped os i) ∧
    (overlaps os = [] ↔ os.Pairwise fun x y => x.span.stop ≤ y.span.start) ∧
    (∀ first later : Occurrence,
      first.span.stop.toNat =
        min (first.span.start.toNat + first.span.length.toNat) (UInt32.size - 1) ∧
      (later.span.start.toNat < UInt32.size - 1 →
        (later.span.start < first.span.stop ↔
          later.span.start.toNat < first.span.start.toNat + first.span.length.toNat))) ∧
    ∀ d : Draft,
      IsStableSort (fun o : Occurrence => o.span.start) d.occurrences d.build.occurrences ∧
      d.buildEvents.map IndexEvent.record =
        (overlaps d.build.occurrences).map fun pair =>
          ⟨.warn, "overlapping range entries",
            [("filename", .text d.filename), ("first", .text pair.1.display),
              ("second", .text pair.2.display)]⟩ := by
  refine ⟨exists_positions os hs, overlaps_eq_nil_iff hs, fun first later => ?_, fun d => ?_⟩
  · exact ⟨first.span.toNat_stop_eq_min, fun hlater => Span.lt_stop_iff hlater first.span⟩
  · exact ⟨isStableSort_mergeSort _ d.occurrences, d.records_buildEvents⟩

/-- A first occurrence over several others: an empty one, one with the same start, and one that is
cut off at the last offset, where the last one starts. -/
def crowded : List Occurrence :=
  [⟨⟨0, 100⟩, "a", .package⟩, ⟨⟨5, 0⟩, "b", .package⟩, ⟨⟨5, 3⟩, "c", .package⟩,
    ⟨⟨10, 4294967295⟩, "d", .package⟩, ⟨⟨4294967295, 1⟩, "e", .package⟩]

theorem neighbours_find_overlaps_crowded :
    (crowded.Pairwise fun x y => x.span.start ≤ y.span.start) ∧
    NeighboursAt crowded [0] (overlaps crowded) ∧ ∀ i, i ∈ [0] ↔ Overlapped crowded i := by
  have hs : crowded.Pairwise fun x y => x.span.start ≤ y.span.start := by decide
  obtain ⟨⟨positions, hat, hmem⟩, -⟩ := neighbours_find_overlaps crowded hs
  have hlength : positions.length = 1 := hat.neighbours.length_eq.trans (by decide)
  have hzero : 0 ∈ positions := by
    rw [hmem]
    exact ⟨3, _, _, by decide, rfl, rfl, by decide⟩
  obtain ⟨i, rfl⟩ := List.length_eq_one_iff.1 hlength
  obtain rfl : 0 = i := by simpa using hzero
  exact ⟨hs, hat, hmem⟩

end RangeIndex
