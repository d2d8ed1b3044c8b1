import RecordQuery.Clamp

/-!
# Timestamps

Milliseconds since the epoch. Conversions from coarser and from wider clocks clamp at the ends of
the 64-bit range instead of failing.
-/

namespace RecordQuery

structure Timestamp where
  millis : Int64
  deriving DecidableEq

namespace Timestamp

def ofSeconds (s : Int64) : Timestamp := ⟨clampInt64 (s.toInt * 1000)⟩

/-- The timestamp of an instant in nanoseconds since the epoch. What is less than a millisecond is
dropped, toward the epoch on either side; before the epoch the distance is clamped, so the least
result is the opposite of the greatest. -/
def ofNanos (n : Int) : Timestamp :=
  if 0 ≤ n then ⟨clampInt64 (n / 1000000)⟩ else ⟨-clampInt64 (-n / 1000000)⟩

/-- Whole seconds since the epoch, rounded toward it. -/
def seconds (t : Timestamp) : Int64 := t.millis / 1000

def compare (a b : Timestamp) : Ordering := Ord.compare a.millis.toInt b.millis.toInt

end Timestamp

end RecordQuery
