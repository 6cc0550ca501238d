import Resumable.Operator
import Resumable.Proofs.RetryPolicy
import Resumable.Proofs.Table

/-!
What one invocation of an operator can end with, one case for each end. Failures of the operator
meet the retry policy, which works on the document that the invocation was given, not on what it has
written since.
-/

namespace Resumable

namespace Operator

variable {World : Type}

inductive Invoked (operator : Operator World) (request : TaskRequest) (clock : Clock)
    (world : World) : Invocation World → Prop where
  | completed {value : TaskResult} {frame : Frame World}
      (returned : operator.ran request clock world = (.ok value, frame)) :
      Invoked operator request clock world
        ⟨.ok (.completed (value.withReport frame.report)), frame.log, frame.clock, frame.world⟩
  | suspended {suspension : Suspension} {frame : Frame World}
      (stopped : operator.ran request clock world = (.error (.suspended suspension), frame)) :
      Invoked operator request clock world
        ⟨.ok (.suspended suspension),
          frame.log ++ [.taskSuspended request.attemptId request.taskName
            suspension.retryIntervalSeconds], frame.clock, frame.world⟩
  | unreadable {error : TaskError} {invalid : ConfigError} {frame : Frame World}
      (failed : operator.ran request clock world = (.error error, frame))
      (final : error.isSuspended = false)
      (unread : RetryPolicy.prepare request.config request.lastStateParams
        operator.retryByDefault = .error invalid) :
      Invoked operator request clock world
        ⟨.error (.of (.config invalid)),
          frame.log ++ [.retryOptionInvalid request.attemptId request.taskName error.message],
          frame.clock, frame.world⟩
  | retried {error : TaskError} {policy : RetryPolicy} {frame : Frame World}
      (failed : operator.ran request clock world = (.error error, frame))
      (final : error.isSuspended = false)
      (prepared : RetryPolicy.prepare request.config request.lastStateParams
        operator.retryByDefault = .ok policy)
      (admitted : policy.admits = true) :
      Invoked operator request clock world
        ⟨.ok (.suspended ⟨policy.nextInterval, operator.resumed policy, some error.document⟩),
          frame.log ++ [.taskRetrying request.attemptId request.taskName policy.count policy.limit
            policy.nextInterval error.message], frame.clock, frame.world⟩
  | failed {error : TaskError} {policy : RetryPolicy} {frame : Frame World}
      (failed : operator.ran request clock world = (.error error, frame))
      (final : error.isSuspended = false)
      (prepared : RetryPolicy.prepare request.config request.lastStateParams
        operator.retryByDefault = .ok policy)
      (refused : policy.admits = false) :
      Invoked operator request clock world
        ⟨.error (.of error),
          frame.log ++ [.taskFailed request.attemptId request.taskName error.kind error.message],
          frame.clock, frame.world⟩

theorem invoke_of_failure {operator : Operator World} {request : TaskRequest} {clock : Clock}
    {world : World} {error : TaskError} {frame : Frame World}
    (failed : operator.ran request clock world = (.error error, frame))
    (final : error.isSuspended = false) :
    operator.invoke request clock world =
      ⟨(operator.afterFailure request error).1,
        frame.log ++ (operator.afterFailure request error).2, frame.clock, frame.world⟩ := by
  simp only [invoke, failed]
  cases error with
  | suspended suspension => cases final
  | _ => rfl

theorem invoked (operator : Operator World) (request : TaskRequest) (clock : Clock)
    (world : World) :
    Invoked operator request clock world (operator.invoke request clock world) := by
  cases result : operator.ran request clock world with
  | mk ending frame =>
      cases ending with
      | ok value =>
          simp only [invoke, result]
          exact .completed result
      | error error =>
          cases final : error.isSuspended with
          | true =>
              cases error with
              | suspended suspension =>
                  simp only [invoke, result]
                  exact .suspended result
              | _ => cases final
          | false =>
              rw [invoke_of_failure result final]
              cases prepared : RetryPolicy.prepare request.config request.lastStateParams
                  operator.retryByDefault with
              | error invalid =>
                  simp only [afterFailure, prepared]
                  exact .unreadable result final prepared
              | ok policy =>
                  cases admitted : policy.admits with
                  | true =>
                      simp only [afterFailure, prepared, admitted, if_true]
                      exact .retried result final prepared admitted
                  | false =>
                      simp only [afterFailure, prepared, admitted]
                      exact .failed result final prepared admitted

theorem invoke_world (operator : Operator World) (request : TaskRequest) (clock : Clock)
    (world : World) :
    (operator.invoke request clock world).world =
      (operator.ran request clock world).2.world := by
  have happened := operator.invoked request clock world
  generalize operator.invoke request clock world = invocation at happened ⊢
  cases happened with
  | completed returned => rw [returned]
  | suspended stopped => rw [stopped]
  | unreadable failed _ _ => rw [failed]
  | retried failed _ _ _ => rw [failed]
  | failed failed _ _ _ => rw [failed]

-- A retry of the whole task hands on what was given under the keys that it does not drop.
theorem get?_resumed {operator : Operator World} {policy : RetryPolicy} {key : String}
    (kept : key ∉ operator.resetKeys) (apart : key ≠ RetryPolicy.countKey) :
    Table.get? key (operator.resumed policy) = Table.get? key policy.state := by
  rw [resumed, Table.get?_foldl_erase kept, RetryPolicy.nextState,
    Table.get?_insert_of_ne apart]

-- Its count takes the place of whatever was under the key of the count.
theorem get?_resumed_count {operator : Operator World} {policy : RetryPolicy}
    (kept : RetryPolicy.countKey ∉ operator.resetKeys) :
    Table.get? RetryPolicy.countKey (operator.resumed policy) =
      some (.nat (min (policy.count + 1) RetryPolicy.maxLimit)) := by
  rw [resumed, Table.get?_foldl_erase kept, RetryPolicy.nextState, Table.get?_insert_self]

end Operator

end Resumable
