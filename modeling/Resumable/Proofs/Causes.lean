import Resumable.Retry

/-!
The chain of messages from an error to its root. Each level has one message: a level that only
passes on the error inside it, as `other` and `task` do, has none of its own. The message and the
causes of an error are this chain, cut behind its first message.
-/

namespace Resumable

/-- What failed at a key, and then what was wrong with the value. -/
def StateError.chain : StateError → List String
  | .decode key source => [StateError.message (.decode key source), source.message]
  | .encode key source => [StateError.message (.encode key source), source.message]

mutual

def TaskError.chain : TaskError → List String
  | .failed message source => message :: source.chain
  | .state error => error.chain
  | .other failure => failure.chain
  | .suspended suspension => [suspension.message]
  | .pollingTimeout message timeout => [TaskError.message (.pollingTimeout message timeout)]
  | .config error => [error.message]

def Failure.chain : Failure → List String
  | .context message inner => message :: inner.chain
  | .state error => error.chain
  | .task error => error.chain
  | .text message => [message]
  | .http status => [Failure.message (.http status)]
  | .flaky isRetry => [Failure.message (.flaky isRetry)]

end

theorem StateError.chain_eq (error : StateError) :
    error.chain = error.message :: error.causes := by
  cases error with
  | decode key source => rfl
  | encode key source => rfl

mutual

theorem TaskError.chain_eq (error : TaskError) : error.chain = error.message :: error.causes := by
  cases error with
  | failed message source =>
      rw [TaskError.chain, Failure.chain_eq source, TaskError.message, TaskError.causes]
  | other failure =>
      rw [TaskError.chain, Failure.chain_eq failure, TaskError.message, TaskError.causes]
  | suspended suspension => rfl
  | pollingTimeout message timeout => rfl
  | state error => exact error.chain_eq
  | config error => rfl

theorem Failure.chain_eq (failure : Failure) :
    failure.chain = failure.message :: failure.causes := by
  cases failure with
  | context message inner =>
      rw [Failure.chain, Failure.chain_eq inner, Failure.message, Failure.causes]
  | task error =>
      rw [Failure.chain, TaskError.chain_eq error, Failure.message, Failure.causes]
  | text message => rfl
  | http status => rfl
  | flaky isRetry => rfl
  | state error => exact error.chain_eq

end

/-- Each context adds one message in front, the last one added the first. -/
theorem Failure.chain_contexts (contexts : List String) (source : Failure) :
    (contexts.foldr Failure.context source).chain = contexts ++ source.chain := by
  induction contexts with
  | nil => rfl
  | cons message rest ih => rw [List.foldr_cons, Failure.chain, ih, List.cons_append]

/-- The failure that a retry takes from an error has the messages of the error. -/
theorem Retry.chain_failure {error : TaskError} {failure : Failure}
    (found : Retry.failure? error = some failure) : failure.chain = error.chain := by
  cases error with
  | state problem =>
      cases found
      rfl
  | other inner =>
      cases found
      rfl
  | _ => cases found

end Resumable
