/-!
# Sequence counters

A counter hands out 64-bit numbers in turn; after the largest it goes on with zero.
-/

namespace ControlRelay

/-- A counter that hands out `current` next. -/
structure Sequence where
  current : UInt64 := 0
  deriving DecidableEq, Repr

namespace Sequence

/-- The sequence whose next number is `first`. -/
def startingAt (first : UInt64) : Sequence := ⟨first⟩

/-- The number handed out and the counter after it. -/
def next (s : Sequence) : UInt64 × Sequence := (s.current, ⟨s.current + 1⟩)

end Sequence

end ControlRelay
