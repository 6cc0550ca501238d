/-!
A length of time by which the calendar is moved on. It is kept in seconds and nanoseconds, and holds
no more milliseconds than a signed 64-bit number.
-/

namespace Resumable

namespace Delay

def maxMillis : Nat := (1 <<< 63) - 1

def Bounded (seconds nanos : Nat) : Prop :=
  nanos < 1000000000 ∧ seconds * 1000000000 + nanos ≤ maxMillis * 1000000

instance (seconds nanos : Nat) : Decidable (Bounded seconds nanos) := by
  unfold Bounded
  infer_instance

end Delay

structure Delay where
  seconds : Nat
  nanos : Nat
  bounded : Delay.Bounded seconds nanos
  deriving DecidableEq

namespace Delay

def longest : Delay := ⟨maxMillis / 1000, maxMillis % 1000 * 1000000, by decide⟩

def ofSeconds? (seconds : Nat) : Option Delay :=
  if fits : Bounded seconds 0 then some ⟨seconds, 0, fits⟩ else none

/-- The number, if it is one of the signed 64-bit numbers. -/
def signed? (seconds : Nat) : Option Nat := if seconds < 1 <<< 63 then some seconds else none

/-- So many seconds, or the longest delay when they are too many. -/
def ofSeconds (seconds : Nat) : Delay := ((signed? seconds).bind ofSeconds?).getD longest

end Delay

end Resumable
