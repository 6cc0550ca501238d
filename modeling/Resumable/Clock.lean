import Resumable.Span
import Resumable.Time.Instant

/-!
A clock that moves only when it is told to. It counts milliseconds in 64 bits and stops at the last
of them; where it is beyond every instant it reads as the epoch.
-/

namespace Resumable

structure Clock where
  millis : Int
  deriving DecidableEq

namespace Clock

def maxMillis : Int := Int.ofNat (1 <<< 63) - 1

def startingAt (instant : Instant) : Clock := ⟨instant.millis⟩

def now (clock : Clock) : Instant := (Instant.ofMillis? clock.millis).getD .epoch

def advance (clock : Clock) (span : Span) : Clock :=
  ⟨min (clock.millis + min (Int.ofNat span.millis) maxMillis) maxMillis⟩

end Clock

/-- What the host reads the time from, and what it adds delays with; a sum that is out of reach is
missing. -/
structure Timepiece where
  read : Clock → Instant
  add? : Instant → Delay → Option Instant

def Timepiece.standard : Timepiece := ⟨Clock.now, Instant.add?⟩

end Resumable
