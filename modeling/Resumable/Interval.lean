import Resumable.Binary64
import Resumable.Span

/-!
Bounds of a wait that grows from one attempt to the next.
-/

namespace Resumable

structure Interval where
  min : Span
  max : Span
  deriving DecidableEq

namespace Interval

/-- A maximum below the minimum is raised to it. -/
def of (min max : Span) : Interval := ⟨min, if min.le max then max else min⟩

def ofSeconds (min max : Nat) : Interval := of (.ofSeconds min) (.ofSeconds max)

/-- Whole seconds to wait before attempt number `iteration`, counted from zero: the minimum times
`base ^ iteration`, but no more than the maximum, in binary floating point. -/
def backoff (interval : Interval) (iteration : Nat) (base : Binary64) : Nat :=
  let grown := (Binary64.ofNat interval.min.seconds).mul (base.pow iteration)
  (grown.min (.ofNat interval.max.seconds)).truncate Span.maxSeconds

end Interval

end Resumable
