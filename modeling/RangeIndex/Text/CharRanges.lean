/-!
# Sets of characters as ranges

A set of characters given by ascending, disjoint ranges of code points. `contains` walks the
ranges and stops at the first one above the code point it is asked about.
-/

namespace RangeIndex.Text

/-- A set of code points: ascending, disjoint ranges, both ends included. -/
structure CharRanges where
  ranges : List (Nat × Nat)

namespace CharRanges

/-- Whether `n` is in one of the ascending ranges. -/
def inAscending (n : Nat) : List (Nat × Nat) → Bool
  | [] => false
  | (lo, hi) :: rest => if n < lo then false else n ≤ hi || inAscending n rest

/-- Whether the code point `n` is in the set. -/
def contains (s : CharRanges) (n : Nat) : Bool :=
  inAscending n s.ranges

end CharRanges

end RangeIndex.Text
