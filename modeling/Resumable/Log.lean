import Resumable.Json.Written
import Resumable.Span
import Resumable.Time.Rfc3339

/-!
What happens is logged as events, each with a level, a message and named fields.
-/

namespace Resumable

inductive Event where
  | gaveUp (message stateKey error : String)
  | retrying (message stateKey : String) (attempt interval : Nat) (error : String)
  | notReady (message stateKey : String) (iteration interval : Nat)
  | pollingTimedOut (message stateKey : String) (elapsed : Int) (timeout : Span)
  | taskSuspended (attemptId taskName : String) (interval : Nat)
  | retryOptionInvalid (attemptId taskName error : String)
  | taskRetrying (attemptId taskName : String) (count limit interval : Nat) (error : String)
  | taskFailed (attemptId taskName kind error : String)
  | enqueued (lockId attemptId : String) (readyAt : Instant)
  | submitted (attemptId lockId : String)
  | restored (attemptId : String) (suspensions : Nat)
  | completed (attemptId : String)
  | scheduled (attemptId lockId : String) (interval : Nat) (readyAt : Instant)
  | attemptFailed (attemptId error : String)

abbrev Log := List Event

namespace Event

def level : Event → String
  | .enqueued _ _ _ => "TRACE"
  | .taskSuspended _ _ _ | .restored _ _ | .scheduled _ _ _ _ => "DEBUG"
  | .notReady _ _ _ _ | .submitted _ _ | .completed _ | .attemptFailed _ _ => "INFO"
  | .gaveUp _ _ _ | .retrying _ _ _ _ _ | .pollingTimedOut _ _ _ _ |
    .taskRetrying _ _ _ _ _ _ => "WARN"
  | .retryOptionInvalid _ _ _ | .taskFailed _ _ _ _ => "ERROR"

def message : Event → String
  | .gaveUp message _ _ => s!"{message}: giving up"
  | .retrying message _ _ interval _ => s!"{message}: retrying in {interval} seconds"
  | .notReady message _ _ interval =>
      s!"{message}: checking again in {(Span.ofSeconds interval).format}"
  | .pollingTimedOut message _ _ timeout => s!"{message}: polling timed out after {timeout.format}"
  | .taskSuspended _ _ _ => "Task suspended"
  | .retryOptionInvalid _ _ _ => "Task failed with an invalid retry option"
  | .taskRetrying _ _ _ _ interval _ => s!"Task failed, retrying in {interval} seconds"
  | .taskFailed _ _ _ _ => "Task failed"
  | .enqueued _ _ _ => "Enqueued task"
  | .submitted _ _ => "Submitted task"
  | .restored _ _ => "Restored task state"
  | .completed _ => "Task completed"
  | .scheduled _ _ _ _ => "Task scheduled"
  | .attemptFailed _ _ => "Task attempt failed"

def fields : Event → List (String × Json)
  | .gaveUp _ stateKey error => [("state_key", .text stateKey), ("error", .text error)]
  | .retrying _ stateKey attempt interval error =>
      [("state_key", .text stateKey), ("attempt", .nat attempt), ("interval", .nat interval),
        ("error", .text error)]
  | .notReady _ stateKey iteration interval =>
      [("state_key", .text stateKey), ("iteration", .nat iteration), ("interval", .nat interval)]
  | .pollingTimedOut _ stateKey elapsed _ =>
      [("state_key", .text stateKey), ("elapsed_ms", .int elapsed)]
  | .taskSuspended attemptId taskName interval =>
      [("attempt_id", .text attemptId), ("task_name", .text taskName), ("interval", .nat interval)]
  | .retryOptionInvalid attemptId taskName error =>
      [("attempt_id", .text attemptId), ("task_name", .text taskName), ("error", .text error)]
  | .taskRetrying attemptId taskName count limit _ error =>
      [("attempt_id", .text attemptId), ("task_name", .text taskName), ("retry_count", .nat count),
        ("retry_limit", .nat limit), ("error", .text error)]
  | .taskFailed attemptId taskName kind error =>
      [("attempt_id", .text attemptId), ("task_name", .text taskName), ("kind", .text kind),
        ("error", .text error)]
  | .enqueued lockId attemptId readyAt =>
      [("lock_id", .text lockId), ("attempt_id", .text attemptId),
        ("ready_at", .text readyAt.display)]
  | .submitted attemptId lockId => [("attempt_id", .text attemptId), ("lock_id", .text lockId)]
  | .restored attemptId suspensions =>
      [("attempt_id", .text attemptId), ("suspensions", .nat suspensions)]
  | .completed attemptId => [("attempt_id", .text attemptId)]
  | .scheduled attemptId lockId interval readyAt =>
      [("attempt_id", .text attemptId), ("lock_id", .text lockId), ("interval", .nat interval),
        ("ready_at", .text readyAt.display)]
  | .attemptFailed attemptId error => [("attempt_id", .text attemptId), ("error", .text error)]

def toJson (event : Event) : Json :=
  .record
    [("level", .text event.level), ("message", .text event.message),
      ("fields", .record event.fields)]

end Event

end Resumable
