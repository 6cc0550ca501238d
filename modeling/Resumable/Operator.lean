import Resumable.Action
import Resumable.RetryPolicy
import Resumable.Task.Request

/-!
The boundary between task code and the host. One invocation runs the operator; a failure that
escapes it is retried as a whole task if the policy allows, and is final otherwise.
-/

namespace Resumable

structure Operator (World : Type) where
  /-- Task code, given the name of the task and its configuration. -/
  run : String → Config → Action World TaskResult
  /-- Members of the document dropped before a retry of the whole task. -/
  resetKeys : List String
  retryByDefault : Bool

structure TaskFailure where
  document : ErrorDocument
  source : TaskError

namespace TaskFailure

def of (error : TaskError) : TaskFailure := ⟨error.document, error⟩

def message (failure : TaskFailure) : String := failure.document.message

def causes (failure : TaskFailure) : List String := failure.source.message :: failure.source.causes

end TaskFailure

namespace Operator

variable {World : Type}

/-- What an invocation ended with, what it logged, and the clock and the world it left. -/
structure Invocation (World : Type) where
  outcome : Except TaskFailure (Outcome TaskResult)
  log : Log
  clock : Clock
  world : World

def ran (operator : Operator World) (request : TaskRequest) (clock : Clock) (world : World) :
    Except TaskError TaskResult × Frame World :=
  (operator.run request.taskName request.config).run request.lastStateParams clock world

/-- The document that a retry of the whole task resumes with. -/
def resumed (operator : Operator World) (policy : RetryPolicy) : Document :=
  operator.resetKeys.foldl (fun state key => Table.erase key state) policy.nextState

/-- The retry policy is read only once the operator has failed. -/
def afterFailure (operator : Operator World) (request : TaskRequest) (error : TaskError) :
    Except TaskFailure (Outcome TaskResult) × Log :=
  match RetryPolicy.prepare request.config request.lastStateParams operator.retryByDefault with
  | .error invalid =>
      (.error (.of (.config invalid)),
        [.retryOptionInvalid request.attemptId request.taskName error.message])
  | .ok policy =>
      let failure := TaskFailure.of error
      if policy.admits then
        let interval := policy.nextInterval
        (.ok (.suspended ⟨interval, operator.resumed policy, some failure.document⟩),
          [.taskRetrying request.attemptId request.taskName policy.count policy.limit interval
            error.message])
      else
        (.error failure,
          [.taskFailed request.attemptId request.taskName error.kind error.message])

def invoke (operator : Operator World) (request : TaskRequest) (clock : Clock) (world : World) :
    Invocation World :=
  let (result, frame) := operator.ran request clock world
  match result with
  | .ok value =>
      let value := value.withReport frame.report
      ⟨.ok (.completed value), frame.log, frame.clock, frame.world⟩
  | .error (.suspended suspension) =>
      let event := Event.taskSuspended request.attemptId request.taskName
        suspension.retryIntervalSeconds
      ⟨.ok (.suspended suspension), frame.log ++ [event], frame.clock, frame.world⟩
  | .error error =>
      let (outcome, events) := operator.afterFailure request error
      ⟨outcome, frame.log ++ events, frame.clock, frame.world⟩

end Operator

end Resumable
