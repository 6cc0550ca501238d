import Resumable.Proofs.Attempt
import Resumable.Proofs.Check
import Resumable.Proofs.Scope

/-!
Suspensions carry the whole document. An action keeps this promise if each suspension it ends with
holds the root document exactly as the action leaves it: nothing is written after the snapshot is
taken. Sequencing, scopes, retries and waits hand the promise on from their operations.
-/

namespace Resumable.Action

variable {World α β : Type}

/-- The suspension an action ends with carries the document that it leaves behind. -/
def Snapshots (action : Action World α) : Prop :=
  ∀ place frame suspension after,
    action place frame = (.error (.suspended suspension), after) →
      suspension.state = place.root after.here

def Quiet (action : Action World α) : Prop :=
  ∀ place frame suspension after, action place frame ≠ (.error (.suspended suspension), after)

theorem snapshots_of_quiet {action : Action World α} (quiet : action.Quiet) :
    action.Snapshots := by
  intro place frame suspension after ended
  exact absurd ended (quiet place frame suspension after)

theorem quiet_pure (value : α) : Quiet (pure value : Action World α) := by
  intro place frame suspension after ended
  simp [pure] at ended

theorem quiet_fail {error : TaskError} (final : error.isSuspended = false) :
    Quiet (fail error : Action World α) := by
  intro place frame suspension after ended
  simp only [fail, Prod.mk.injEq, Except.error.injEq] at ended
  simp [ended.1, TaskError.isSuspended] at final

theorem quiet_ofState (result : Except StateError α) :
    Quiet (ofState result : Action World α) := by
  cases result with
  | ok value => exact quiet_pure value
  | error error => exact quiet_fail rfl

theorem quiet_get (codec : Json.Codec α) (key : String) :
    Quiet (get codec key : Action World (Option α)) :=
  fun place frame => quiet_ofState (frame.here.get codec key) place frame

theorem quiet_getOr (codec : Json.Codec α) (key : String) (default : α) :
    Quiet (getOr codec key default : Action World α) :=
  fun place frame => quiet_ofState (frame.here.getOr codec key default) place frame

theorem quiet_getNullable (codec : Json.Codec α) (key : String) :
    Quiet (getNullable codec key : Action World α) :=
  fun place frame => quiet_ofState (frame.here.getNullable codec key) place frame

theorem quiet_set (codec : Json.Codec α) (key : String) (value : α) :
    Quiet (set codec key value : Action World Unit) := by
  intro place frame suspension after ended
  simp only [set] at ended
  split at ended <;> simp at ended

theorem snapshots_suspend (seconds : Nat) :
    Snapshots (suspend seconds : Action World α) := by
  intro place frame suspension after ended
  cases ended
  rfl

theorem snapshots_bind {first : Action World α} {next : α → Action World β}
    (before : first.Snapshots) (later : ∀ value, (next value).Snapshots) :
    Snapshots (bind first next) := by
  intro place frame suspension after ended
  simp only [bind] at ended
  cases ran : first place frame with
  | mk result middle =>
      cases result with
      | ok value =>
          simp only [ran] at ended
          exact later value place middle suspension after ended
      | error error =>
          simp only [ran, Prod.mk.injEq, Except.error.injEq] at ended
          obtain ⟨rfl, rfl⟩ := ended
          exact before place frame suspension middle ran

theorem snapshots_nested {action : Action World α} (inner : action.Snapshots) (key : String) :
    Snapshots (nested key action) := by
  intro place frame suspension after ended
  obtain ⟨within, ran, rfl⟩ := of_nested ended
  exact inner (place.within key frame.here) (frame.enter key) suspension within ran

theorem snapshots_nestedPath {action : Action World α} (inner : action.Snapshots)
    (path : List String) : Snapshots (nestedPath path action) := by
  induction path with
  | nil => exact inner
  | cons key rest ih => exact snapshots_nested ih key

end Resumable.Action

namespace Resumable

open Resumable.Action

variable {World α : Type}

theorem Retry.snapshots_attempt (retry : Retry) {operation : Action World α}
    (inner : operation.Snapshots) : Snapshots (retry.attempt operation) := by
  intro place frame suspension after ended
  cases Retry.attempted ended with
  | passed ran _ => exact snapshots_nested inner "operation" place frame suspension after ran
  | retried _ _ _ _ => rfl

theorem Retry.snapshots_run (retry : Retry) {operation : Action World α}
    (inner : operation.Snapshots) : Snapshots (retry.run operation) :=
  snapshots_nested (retry.snapshots_attempt inner) retry.key

theorem Retry.snapshots_runOnce (retry : Retry) (codec : Json.Codec α)
    {operation : Action World α} (inner : operation.Snapshots) :
    Snapshots (retry.runOnce codec operation) := by
  apply snapshots_nested
  apply snapshots_bind (snapshots_of_quiet (quiet_getOr _ _ _))
  intro done
  cases done with
  | true => exact snapshots_of_quiet (quiet_getNullable codec "result")
  | false =>
      apply snapshots_bind (retry.snapshots_attempt inner)
      intro value
      apply snapshots_bind (snapshots_of_quiet (quiet_set _ _ _))
      intro _
      apply snapshots_bind (snapshots_of_quiet (quiet_set _ _ _))
      intro _
      exact snapshots_of_quiet (quiet_pure value)

theorem Polling.snapshots_check (polling : Polling) {operation : Action World (Option α)}
    (inner : operation.Snapshots) : Snapshots (polling.check operation) := by
  intro place frame suspension after ended
  cases Polling.checked ended with
  | passed _ _ ran => exact snapshots_nested inner "operation" place _ suspension after ran
  | waits _ _ _ _ => rfl

theorem Polling.snapshots_awaitReady (polling : Polling) {operation : Action World (Option α)}
    (inner : operation.Snapshots) : Snapshots (polling.awaitReady operation) :=
  snapshots_nested (polling.snapshots_check inner) polling.key

theorem Polling.snapshots_awaitOnce (polling : Polling) (codec : Json.Codec α)
    {operation : Action World (Option α)} (inner : operation.Snapshots) :
    Snapshots (polling.awaitOnce codec operation) := by
  apply snapshots_nested
  apply snapshots_bind (snapshots_of_quiet (quiet_get _ _))
  intro found
  cases found with
  | some value => exact snapshots_of_quiet (quiet_pure value)
  | none =>
      apply snapshots_bind (polling.snapshots_check inner)
      intro value
      apply snapshots_bind (snapshots_of_quiet (quiet_set _ _ _))
      intro _
      exact snapshots_of_quiet (quiet_pure value)

end Resumable
