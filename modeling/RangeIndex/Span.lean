/-!
# Spans of source text

A span is a start offset and a length, both of 32 bits. Its end stays within 32 bits too: a span
that would reach further ends at the last offset.
-/

namespace RangeIndex

/-- A stretch of a source file. -/
structure Span where
  start : UInt32
  length : UInt32
deriving DecidableEq, Repr, Inhabited

namespace Span

/-- The offset after the last unit of the span, `2 ^ 32 - 1` at most. -/
def stop (s : Span) : UInt32 :=
  UInt32.ofNatClamp (s.start.toNat + s.length.toNat)

theorem toNat_stop (s : Span) :
    s.stop.toNat =
      if s.start.toNat + s.length.toNat < UInt32.size then s.start.toNat + s.length.toNat
      else UInt32.size - 1 := by
  unfold stop UInt32.ofNatClamp
  split
  · exact UInt32.toNat_ofNatLT
  · rfl

end Span

end RangeIndex
