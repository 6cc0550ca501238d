import Resumable.Proofs.Flow.Program

/-!
A raise stops the program: it ends with a suspension there, so nothing after it is reached and no
other raise is possible from the same start.
-/

namespace Resumable

variable {World α : Type}

def Action.Suspends (action : Action World α) (place : Place) (frame : Frame World) : Prop :=
  ∃ suspension after, action place frame = (.error (.suspended suspension), after)

theorem Action.suspends_nested {key : String} {action : Action World α} {place : Place}
    {frame : Frame World}
    (inner : action.Suspends (place.within key frame.here) (frame.enter key)) :
    (Action.nested key action).Suspends place frame := by
  obtain ⟨suspension, after, ran⟩ := inner
  exact ⟨suspension, _, Action.nested_eq ran⟩

/-! An action has one result, so one that suspends neither returns nor fails. -/

theorem Action.Suspends.not_returned {action : Action World α} {place : Place}
    {frame after : Frame World} {value : α} (suspends : action.Suspends place frame) :
    action place frame ≠ (.ok value, after) := by
  intro returned
  obtain ⟨suspension, last, stopped⟩ := suspends
  rw [returned] at stopped
  cases stopped

theorem Action.Suspends.not_failed {action : Action World α} {place : Place}
    {frame after : Frame World} {error : TaskError} {failure : Failure}
    (suspends : action.Suspends place frame) (found : Retry.failure? error = some failure) :
    action place frame ≠ (.error error, after) := by
  intro failed
  obtain ⟨suspension, last, stopped⟩ := suspends
  rw [failed] at stopped
  cases stopped
  cases found

namespace Raises

theorem suspends {flow : Flow World α} {place : Place} {frame : Frame World} {raise : Raise}
    (raises : Raises flow place frame raise) : flow.action.Suspends place frame := by
  induction raises with
  | first _ ih =>
      obtain ⟨suspension, after, ran⟩ := ih
      refine ⟨suspension, after, ?_⟩
      simp only [Flow.action, Action.bind, ran]
  | next ran _ ih =>
      obtain ⟨suspension, after, ended⟩ := ih
      refine ⟨suspension, after, ?_⟩
      simp only [Flow.action, Action.bind, ran, ended]
  | nested _ ih =>
      rw [Flow.action]
      exact Action.suspends_nested ih
  | retries ran found admitted read =>
      rw [Flow.action, Retry.run]
      exact Action.suspends_nested (Retry.attempt_of_retried ran found admitted read)
  | @insideRetry _ retry _ _ _ _ _ ih =>
      rw [Flow.action, Retry.run]
      apply Action.suspends_nested
      obtain ⟨suspension, after, ran⟩ := Action.suspends_nested ih
      exact ⟨suspension, after, retry.attempt_of_final ran rfl⟩
  | once undone _ ih =>
      rw [Flow.action, Retry.run] at ih
      obtain ⟨suspension, after, ended⟩ := ih
      obtain ⟨within, tried, _⟩ := Action.of_nested ended
      rw [Flow.action, Retry.runOnce]
      exact Action.suspends_nested ⟨suspension, within, Retry.once_of_stopped _ undone tried⟩
  | waits started inTime ran read =>
      rw [Flow.action, Polling.awaitReady]
      exact Action.suspends_nested (Polling.check_of_notReady started inTime ran read)
  | insideWait started inTime _ ih =>
      rw [Flow.action, Polling.awaitReady]
      apply Action.suspends_nested
      obtain ⟨suspension, after, ran⟩ := Action.suspends_nested ih
      exact ⟨suspension, after, Polling.check_of_failed started inTime ran⟩
  | awaited unseen _ ih =>
      rw [Flow.action, Polling.awaitReady] at ih
      obtain ⟨suspension, after, ended⟩ := ih
      obtain ⟨within, checked, _⟩ := Action.of_nested ended
      rw [Flow.action, Polling.awaitOnce]
      exact Action.suspends_nested ⟨suspension, within, Polling.once_of_stopped unseen checked⟩

theorem unique {flow : Flow World α} {place : Place} {frame : Frame World} {raise other : Raise}
    (raises : Raises flow place frame raise) (again : Raises flow place frame other) :
    other = raise := by
  -- Both ways start alike; where they could part, one says that a part suspends and the other that
  -- the same part returned or failed.
  induction raises generalizing other with
  | first inner ih =>
      cases again with
      | first inner => exact ih inner
      | next ran _ => exact absurd ran inner.suspends.not_returned
  | next ran inner ih =>
      cases again with
      | first first => exact absurd ran first.suspends.not_returned
      | next again later =>
          rw [ran] at again
          cases again
          exact ih later
  | nested inner ih =>
      cases again with
      | nested again => rw [ih again]
  | retries ran found admitted read =>
      cases again with
      | retries again _ _ counted =>
          rw [ran] at again
          cases again
          rw [read] at counted
          cases counted
          rfl
      | insideRetry inner =>
          exact absurd ran ((Action.suspends_nested inner.suspends).not_failed found)
  | insideRetry inner ih =>
      cases again with
      | retries ran found _ _ =>
          exact absurd ran ((Action.suspends_nested inner.suspends).not_failed found)
      | insideRetry again => rw [ih again]
  | once undone inner ih =>
      cases again with
      | once _ again => exact ih again
  | waits started inTime ran read =>
      cases again with
      | waits begun _ again counted =>
          obtain ⟨rfl, rfl⟩ := started.unique begun
          rw [ran] at again
          cases again
          rw [read] at counted
          cases counted
          rfl
      | insideWait begun _ inner =>
          obtain ⟨rfl, rfl⟩ := started.unique begun
          exact absurd ran (Action.suspends_nested inner.suspends).not_returned
  | insideWait started inTime inner ih =>
      cases again with
      | waits begun _ ran _ =>
          obtain ⟨rfl, rfl⟩ := started.unique begun
          exact absurd ran (Action.suspends_nested inner.suspends).not_returned
      | insideWait begun _ again =>
          obtain ⟨rfl, rfl⟩ := started.unique begun
          rw [ih again]
  | awaited unseen inner ih =>
      cases again with
      | awaited _ again => exact ih again

end Raises

end Resumable
