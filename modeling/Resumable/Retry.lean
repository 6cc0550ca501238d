import Resumable.Action
import Resumable.Interval

/-!
Retry of an operation across invocations. A failure that is worth another try is counted in the
scope of the retry and suspends the task; the next invocation runs the operation again. The scope
holds the failed attempts so far under `retry`, for an operation that runs once whether it has under
`done` and with what under `result`, and the operation's own scope under `operation`.
-/

namespace Resumable

/-- Largest value of a persisted counter. -/
def maxCount : Nat := 1 <<< 32 - 1

structure Retry where
  key : String
  interval : Interval
  /-- A failure is retried if one of these holds for it, or if there are none. -/
  predicates : List (Failure → Bool)
  message : Failure → String

namespace Retry

def defaultInterval : Interval := .ofSeconds 1 30

def defaultMessage : String := "Operation failed"

def withKey (key : String) : Retry := ⟨key, defaultInterval, [], fun _ => defaultMessage⟩

def base : Binary64 := .ofNat 2

def admits (retry : Retry) (failure : Failure) : Bool :=
  retry.predicates.isEmpty || retry.predicates.any fun predicate => predicate failure

/-- The failure of the operation in an error. Suspensions, and errors that are final already, hold
none. -/
def failure? : TaskError → Option Failure
  | .state error => some (.state error)
  | .other failure => some failure
  | .suspended _ | .failed _ _ | .pollingTimeout _ _ | .config _ => none

variable {World α : Type}

def onFailure (retry : Retry) (failure : Failure) : Action World α := do
  let message := retry.message failure
  if retry.admits failure then
    let attempt ← Action.getOr .count "retry" 0
    Action.set .count "retry" (min (attempt + 1) maxCount)
    let interval := retry.interval.backoff attempt base
    Action.log (.retrying message retry.key attempt interval failure.message)
    Action.suspend interval
  else
    Action.log (.gaveUp message retry.key failure.message)
    Action.fail (.failed message failure)

def attempt (retry : Retry) (operation : Action World α) : Action World α := do
  match ← (Action.nested "operation" operation).outcome with
  | .ok value =>
      let _ ← Action.remove "retry"
      return value
  | .error error =>
      match failure? error with
      | some failure => retry.onFailure failure
      | none => Action.fail error

def run (retry : Retry) (operation : Action World α) : Action World α :=
  .nested retry.key (retry.attempt operation)

def once (retry : Retry) (codec : Json.Codec α) (operation : Action World α) : Action World α := do
  if ← Action.getOr .bool "done" false then
    Action.getNullable codec "result"
  else
    let value ← retry.attempt operation
    Action.set codec "result" value
    Action.set .bool "done" true
    return value

/-- Runs the operation until it has succeeded once; after that its stored result is returned. -/
def runOnce (retry : Retry) (codec : Json.Codec α) (operation : Action World α) :
    Action World α :=
  .nested retry.key (retry.once codec operation)

end Retry

end Resumable
