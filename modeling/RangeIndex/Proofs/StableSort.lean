import RangeIndex.Index.Draft

/-!
# Stable sorting by a key

`IsStableSort` pins a sorted list down: it has the same elements, its keys do not fall, and for each
key the elements with that key are those of the list that was sorted, in the same order. Merge sort
by a key gives such a list, and a list with keys that do not fall is its own. There is no other
such list (`isStableSort_iff`).
-/

namespace RangeIndex

section StableSort

variable {α κ : Type} [LE κ] [DecidableLE κ] [DecidableEq κ] [Std.IsLinearOrder κ] (key : α → κ)

/-- `ys` is `xs` sorted by `key`, and elements of the same key keep their order. -/
structure IsStableSort (xs ys : List α) : Prop where
  perm : ys.Perm xs
  sorted : ys.Pairwise fun a b => key a ≤ key b
  stable : ∀ k, (ys.filter fun a => key a = k) = xs.filter fun a => key a = k

omit [DecidableEq κ] in
theorem key_trans (a b c : α) (hab : decide (key a ≤ key b)) (hbc : decide (key b ≤ key c)) :
    decide (key a ≤ key c) := by
  simp only [decide_eq_true_eq] at hab hbc ⊢
  exact Std.le_trans hab hbc

omit [DecidableEq κ] in
theorem key_total (a b : α) : decide (key a ≤ key b) || decide (key b ≤ key a) := by
  simpa using Std.le_total

omit [DecidableEq κ] in
theorem pairwise_mergeSort_key (xs : List α) :
    (xs.mergeSort fun a b => key a ≤ key b).Pairwise fun a b => key a ≤ key b := by
  simpa using List.pairwise_mergeSort (key_trans key) (key_total key) xs

omit [DecidableEq κ] [Std.IsLinearOrder κ] in
theorem mergeSort_key_of_pairwise {xs : List α} (h : xs.Pairwise fun a b => key a ≤ key b) :
    (xs.mergeSort fun a b => key a ≤ key b) = xs :=
  List.mergeSort_of_pairwise (by simpa using h)

theorem isStableSort_mergeSort (xs : List α) :
    IsStableSort key xs (xs.mergeSort fun a b => key a ≤ key b) := by
  refine ⟨List.mergeSort_perm xs _, pairwise_mergeSort_key key xs, fun k => ?_⟩
  -- The elements of one key are a sorted part of `xs`, so sorting keeps them as they are, and
  -- there are no more of them afterwards.
  have hkeep : (xs.filter fun a => key a = k).Sublist (xs.mergeSort fun a b => key a ≤ key b) := by
    refine List.sublist_mergeSort (key_trans key) (key_total key) ?_ List.filter_sublist
    refine List.pairwise_of_forall_mem_list fun a ha b hb => ?_
    simp only [List.mem_filter, decide_eq_true_eq] at ha hb ⊢
    rw [ha.2, hb.2]
    exact Std.le_refl k
  have hsub := hkeep.filter fun a => key a = k
  rw [List.filter_filter] at hsub
  simp only [Bool.and_self] at hsub
  refine (hsub.eq_of_length ?_).symm
  exact ((List.mergeSort_perm xs _).filter _).length_eq.symm

omit [DecidableLE κ] in
theorem eq_of_filter_eq :
    ∀ {ys zs : List α}, (ys.Pairwise fun a b => key a ≤ key b) →
      (zs.Pairwise fun a b => key a ≤ key b) →
      (∀ k, (ys.filter fun a => key a = k) = zs.filter fun a => key a = k) → ys = zs
  | [], [], _, _, _ => rfl
  | [], b :: zs, _, _, h => by simpa using h (key b)
  | a :: ys, [], _, _, h => by simpa using h (key a)
  | a :: ys, b :: zs, hy, hz, h => by
    obtain ⟨ha, hys⟩ := List.pairwise_cons.1 hy
    obtain ⟨hb, hzs⟩ := List.pairwise_cons.1 hz
    have hba : key b ≤ key a := by
      have hmem : a ∈ (b :: zs).filter fun c => key c = key a := by simp [← h]
      rcases List.mem_cons.1 (List.mem_filter.1 hmem).1 with rfl | hmem
      · exact Std.le_refl _
      · exact hb a hmem
    have hab : key a ≤ key b := by
      have hmem : b ∈ (a :: ys).filter fun c => key c = key b := by simp [h]
      rcases List.mem_cons.1 (List.mem_filter.1 hmem).1 with rfl | hmem
      · exact Std.le_refl _
      · exact ha b hmem
    have hkey : key b = key a := Std.le_antisymm hba hab
    -- The first elements have the same key, so each of them is the first of that key.
    have hhead := h (key a)
    simp only [List.filter_cons, hkey, decide_true, if_true, List.cons.injEq] at hhead
    obtain ⟨rfl, -⟩ := hhead
    rw [eq_of_filter_eq hys hzs fun k => ?_]
    by_cases hk : key a = k
    · simpa [hk] using h k
    · simpa [hk] using h k

theorem isStableSort_iff {xs ys : List α} :
    IsStableSort key xs ys ↔ ys = xs.mergeSort fun a b => key a ≤ key b := by
  have hsort := isStableSort_mergeSort key xs
  constructor
  · intro h
    refine eq_of_filter_eq key h.sorted hsort.sorted fun k => ?_
    rw [h.stable, hsort.stable]
  · rintro rfl
    exact hsort

end StableSort

end RangeIndex
