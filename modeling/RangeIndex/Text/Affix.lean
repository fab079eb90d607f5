/-!
# Leading parts of texts

`after? p s` is what follows `p` in a text `s` that starts with `p`.
-/

namespace RangeIndex.Text

/-- What follows `p` in a list that starts with it. -/
def afterChars? : List Char → List Char → Option (List Char)
  | [], s => some s
  | _ :: _, [] => none
  | a :: p, b :: s => if a = b then afterChars? p s else none

theorem afterChars?_eq_some_iff {p s r : List Char} : afterChars? p s = some r ↔ s = p ++ r := by
  induction p generalizing s with
  | nil => simp [afterChars?]
  | cons a p ih =>
    cases s with
    | nil => simp [afterChars?]
    | cons b s =>
      by_cases h : a = b
      · simp [afterChars?, h, ih]
      · simp only [afterChars?, h, if_false, List.cons_append, List.cons.injEq, reduceCtorEq]
        exact ⟨False.elim, fun hs => h hs.1.symm⟩

/-- What follows `p` in a text that starts with it. -/
def after? (p s : String) : Option String :=
  (afterChars? p.toList s.toList).map String.ofList

theorem after?_eq_some_iff {p s r : String} : after? p s = some r ↔ s = p ++ r := by
  rw [after?, Option.map_eq_some_iff]
  constructor
  · rintro ⟨cs, hcs, rfl⟩
    rw [← String.toList_inj, String.toList_append, String.toList_ofList]
    exact afterChars?_eq_some_iff.1 hcs
  · rintro rfl
    exact ⟨r.toList, afterChars?_eq_some_iff.2 String.toList_append, String.ofList_toList⟩

/-- Whether a text starts with `p`. -/
def startsWith (p s : String) : Bool :=
  (after? p s).isSome

theorem startsWith_iff {p s : String} : startsWith p s ↔ ∃ r, s = p ++ r := by
  rw [startsWith, Option.isSome_iff_exists]
  exact exists_congr fun _ => after?_eq_some_iff

end RangeIndex.Text
