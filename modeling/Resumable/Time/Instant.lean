import Resumable.Time.Calendar
import Resumable.Time.Delay

/-!
Instants of universal time, from the first of January of the year -262143 to the last second of
262142. A leap second is the second before it with a thousand million nanoseconds more.
-/

namespace Resumable

namespace Instant

def firstSecond : Int := -8334601228800

def lastSecond : Int := 8210266876799

def Representable (seconds : Int) (nanos : Nat) : Prop :=
  firstSecond ≤ seconds ∧ seconds ≤ lastSecond ∧ nanos < 2000000000 ∧
    (1000000000 ≤ nanos → seconds % 60 = 59)

instance (seconds : Int) (nanos : Nat) : Decidable (Representable seconds nanos) := by
  unfold Representable
  infer_instance

end Instant

structure Instant where
  seconds : Int
  nanos : Nat
  representable : Instant.Representable seconds nanos
  deriving DecidableEq

namespace Instant

def of? (seconds : Int) (nanos : Nat) : Option Instant :=
  if fits : Representable seconds nanos then some ⟨seconds, nanos, fits⟩ else none

def epoch : Instant := ⟨0, 0, by decide⟩

def latest : Instant := ⟨lastSecond, 999999999, by decide⟩

instance : Inhabited Instant := ⟨epoch⟩

def le (left right : Instant) : Bool :=
  left.seconds < right.seconds || (left.seconds == right.seconds && left.nanos ≤ right.nanos)

def ofMillis? (millis : Int) : Option Instant :=
  of? (Int.fdiv millis 1000) ((Int.fmod millis 1000).toNat * 1000000)

def millis (instant : Instant) : Int := instant.seconds * 1000 + Int.ofNat (instant.nanos / 1000000)

/-- The instant a delay later, if there is one. What starts in a leap second and stays in it is not
carried over. -/
def add? (instant : Instant) (delay : Delay) : Option Instant :=
  let nanos := instant.nanos + delay.nanos
  if 1000000000 ≤ instant.nanos && delay.seconds == 0 && nanos < 2000000000 then
    of? instant.seconds nanos
  else
    let nanos := if 1000000000 ≤ instant.nanos then nanos - 1000000000 else nanos
    of? (instant.seconds + delay.seconds + Int.ofNat (nanos / 1000000000)) (nanos % 1000000000)

/-- The instant so many seconds later by an addition of delays, or the latest one when that is out
of reach. -/
def addSecondsBy (add? : Instant → Delay → Option Instant) (instant : Instant) (seconds : Nat) :
    Instant :=
  (add? instant (.ofSeconds seconds)).getD latest

def addSeconds : Instant → Nat → Instant := addSecondsBy add?

end Instant

end Resumable
