import RangeIndex.Log
import RangeIndex.Occurrence

/-!
# Events of reading and building an index
-/

namespace RangeIndex

/-- What reading and building an index reports. -/
inductive IndexEvent where
  /-- A block names a file that an earlier block named; `line` is the line of its end. -/
  | duplicateBlock (filename : String) (line : Nat)
  /-- A cached index is of another file or of other content. -/
  | cacheMiss (filename : String)
  /-- A cached index was taken over. -/
  | cacheHit (filename : String) (occurrences : Nat)
  /-- An occurrence runs past the start of the next one. -/
  | overlap (filename : String) (first second : Occurrence)
deriving DecidableEq, Repr

/-- The log record of an event. -/
def IndexEvent.record : IndexEvent → Log.Record
  | .duplicateBlock filename line =>
    ⟨.warn, "duplicate range map block, keeping the later one",
      [("filename", .text filename), ("line", .number line)]⟩
  | .cacheMiss filename => ⟨.debug, "range map cache miss", [("filename", .text filename)]⟩
  | .cacheHit filename occurrences =>
    ⟨.debug, "range map cache hit",
      [("filename", .text filename), ("entries", .number occurrences)]⟩
  | .overlap filename first second =>
    ⟨.warn, "overlapping range entries",
      [("filename", .text filename), ("first", .text first.display),
        ("second", .text second.display)]⟩

end RangeIndex
