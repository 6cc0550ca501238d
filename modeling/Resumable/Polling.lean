import Resumable.Retry

/-!
Waiting for a condition across invocations. Each invocation checks once; while the answer is "not
ready" the task suspends for a growing interval. The scope of the wait holds the time of the first
check under `start_time`, the answers "not ready" so far under `iteration`, a result that is awaited
once under `result`, and the operation's own scope under `operation`.
-/

namespace Resumable

structure Polling where
  key : String
  interval : Interval
  base : Binary64
  /-- Time since the first check after which the wait is given up. -/
  timeout : Option Span
  message : String
  read : Clock → Int

namespace Polling

def defaultInterval : Interval := .ofSeconds 1 30

def defaultMessage : String := "Operation failed"

variable {World α : Type}

def withKey (key : String) : Polling :=
  ⟨key, defaultInterval, .ofNat 2, none, defaultMessage, fun clock => clock.now.millis⟩

def maxMillis : Int := Int.ofNat (1 <<< 63) - 1

/-- Milliseconds between two readings, kept within 64 bits. -/
def elapsed (start now : Int) : Int := max (-Int.ofNat (1 <<< 63)) (min (now - start) maxMillis)

def limit (timeout : Span) : Int := min (Int.ofNat timeout.millis) maxMillis

/-- The time of the first check, which is now if there was none. -/
def startTime (now : Int) : Action World Int := do
  match ← Action.get .signed "start_time" with
  | some start => return start
  | none =>
      Action.set .signed "start_time" now
      return now

def checkDeadline (polling : Polling) (start now : Int) : Action World Unit :=
  match polling.timeout with
  | none => return ()
  | some timeout => do
      let passed := elapsed start now
      if limit timeout ≤ passed then
        Action.log (.pollingTimedOut polling.message polling.key passed timeout)
        Action.fail (.pollingTimeout polling.message timeout)

def notReady (polling : Polling) : Action World α := do
  let iteration ← Action.getOr .count "iteration" 0
  Action.set .count "iteration" (min (iteration + 1) maxCount)
  let interval := polling.interval.backoff iteration polling.base
  Action.log (.notReady polling.message polling.key iteration interval)
  Action.suspend interval

def check (polling : Polling) (operation : Action World (Option α)) : Action World α := do
  let now := polling.read (← Action.clock)
  let start ← startTime now
  polling.checkDeadline start now
  match ← Action.nested "operation" operation with
  | some value =>
      let _ ← Action.remove "operation"
      let _ ← Action.remove "iteration"
      let _ ← Action.remove "start_time"
      return value
  | none => polling.notReady

def awaitReady (polling : Polling) (operation : Action World (Option α)) :
    Action World α :=
  .nested polling.key (polling.check operation)

def once (polling : Polling) (codec : Json.Codec α) (operation : Action World (Option α)) :
    Action World α := do
  match ← Action.get codec "result" with
  | some value => return value
  | none =>
      let value ← polling.check operation
      Action.set codec "result" value
      return value

/-- Waits until the value has been seen once; after that the stored value is returned. -/
def awaitOnce (polling : Polling) (codec : Json.Codec α)
    (operation : Action World (Option α)) : Action World α :=
  .nested polling.key (polling.once codec operation)

end Polling

end Resumable
