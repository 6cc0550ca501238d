import Resumable.Retry

/-!
What one attempt of a retry can come to, one case for each end, with the document it leaves in the
scope of the retry. Everything else about retries is read off these cases.
-/

namespace Resumable.Retry

variable {World α : Type}

/-- The document of a retry after one more failed attempt. -/
def counted (here : Document) (attempts : Nat) : Document :=
  Table.insert "retry" (.nat (min (attempts + 1) maxCount)) here

/-- The result and the frame an attempt ends with, in the scope of the retry. -/
inductive Attempted (retry : Retry) (operation : Action World α) (place : Place)
    (frame : Frame World) : Except TaskError α → Frame World → Prop where
  | succeeded {value : α} {after : Frame World}
      (ran : Action.nested "operation" operation place frame = (.ok value, after)) :
      Attempted retry operation place frame (.ok value)
        { after with here := Table.erase "retry" after.here }
  | passed {error : TaskError} {after : Frame World}
      (ran : Action.nested "operation" operation place frame = (.error error, after))
      (final : failure? error = none) :
      Attempted retry operation place frame (.error error) after
  | gaveUp {error : TaskError} {failure : Failure} {after : Frame World}
      (ran : Action.nested "operation" operation place frame = (.error error, after))
      (found : failure? error = some failure) (refused : retry.admits failure = false) :
      Attempted retry operation place frame (.error (.failed (retry.message failure) failure))
        { after with
          log := after.log ++ [.gaveUp (retry.message failure) retry.key failure.message] }
  | uncounted {error : TaskError} {failure : Failure} {problem : StateError} {after : Frame World}
      (ran : Action.nested "operation" operation place frame = (.error error, after))
      (found : failure? error = some failure) (admitted : retry.admits failure = true)
      (unread : after.here.getOr .count "retry" 0 = .error problem) :
      Attempted retry operation place frame (.error (.state problem)) after
  | retried {error : TaskError} {failure : Failure} {attempts : Nat} {after : Frame World}
      (ran : Action.nested "operation" operation place frame = (.error error, after))
      (found : failure? error = some failure) (admitted : retry.admits failure = true)
      (read : after.here.getOr .count "retry" 0 = .ok attempts) :
      Attempted retry operation place frame
        (.error (.suspended
          (.of (retry.interval.backoff attempts base) (place.root (counted after.here attempts)))))
        { after with
          here := counted after.here attempts
          log := after.log ++ [.retrying (retry.message failure) retry.key attempts
            (retry.interval.backoff attempts base) failure.message] }

theorem onFailure_cases {retry : Retry} {operation : Action World α} {place : Place}
    {frame after : Frame World} {error : TaskError} {failure : Failure}
    (ran : Action.nested "operation" operation place frame = (.error error, after))
    (found : failure? error = some failure) :
    Attempted retry operation place frame (retry.onFailure (α := α) failure place after).1
      (retry.onFailure (α := α) failure place after).2 := by
  cases admitted : retry.admits failure with
  | false =>
      simp only [onFailure, admitted]
      exact .gaveUp ran found admitted
  | true =>
      cases read : after.here.getOr .count "retry" 0 with
      | error problem =>
          simp only [onFailure, admitted, if_true, bind, Action.bind, Action.getOr, read]
          exact .uncounted ran found admitted read
      | ok attempts =>
          simp only [onFailure, admitted, if_true, bind, Action.bind, Action.getOr, read]
          exact .retried ran found admitted read

theorem attempt_cases (retry : Retry) (operation : Action World α) (place : Place)
    (frame : Frame World) :
    Attempted retry operation place frame (retry.attempt operation place frame).1
      (retry.attempt operation place frame).2 := by
  cases ran : Action.nested "operation" operation place frame with
  | mk result after =>
      cases result with
      | ok value =>
          simp only [attempt, bind, Action.bind, Action.outcome, ran]
          exact .succeeded ran
      | error error =>
          cases found : failure? error with
          | none =>
              simp only [attempt, bind, Action.bind, Action.outcome, ran, found]
              exact .passed ran found
          | some failure =>
              simp only [attempt, bind, Action.bind, Action.outcome, ran, found]
              exact onFailure_cases ran found

theorem attempted {retry : Retry} {operation : Action World α} {place : Place}
    {frame after : Frame World} {result : Except TaskError α}
    (ran : retry.attempt operation place frame = (result, after)) :
    Attempted retry operation place frame result after := by
  have cases := attempt_cases retry operation place frame
  rwa [ran] at cases

theorem attempt_of_final (retry : Retry) {operation : Action World α} {place : Place}
    {frame after : Frame World} {error : TaskError}
    (ran : Action.nested "operation" operation place frame = (.error error, after))
    (final : failure? error = none) :
    retry.attempt operation place frame = (.error error, after) := by
  simp only [attempt, bind, Action.bind, Action.outcome, ran, final]
  rfl

theorem attempt_of_retried {retry : Retry} {operation : Action World α} {place : Place}
    {frame after : Frame World} {error : TaskError} {failure : Failure} {attempts : Nat}
    (ran : Action.nested "operation" operation place frame = (.error error, after))
    (found : failure? error = some failure) (admitted : retry.admits failure = true)
    (read : after.here.getOr .count "retry" 0 = .ok attempts) :
    ∃ suspension last,
      retry.attempt operation place frame = (.error (.suspended suspension), last) := by
  simp only [attempt, bind, Action.bind, Action.outcome, ran, found, onFailure, admitted, if_true,
    Action.getOr, read]
  exact ⟨_, _, rfl⟩

theorem attempt_of_refused {retry : Retry} {operation : Action World α} {place : Place}
    {frame after : Frame World} {error : TaskError} {failure : Failure}
    (ran : Action.nested "operation" operation place frame = (.error error, after))
    (found : failure? error = some failure) (refused : retry.admits failure = false) :
    ∃ last, retry.attempt operation place frame =
      (.error (.failed (retry.message failure) failure), last) := by
  simp only [attempt, bind, Action.bind, Action.outcome, ran, found, onFailure, refused]
  exact ⟨_, rfl⟩

/-- The document of a retry that has kept its result. -/
def kept (here : Document) (stored : Json) : Document :=
  Table.insert "done" (.bool true) (Table.insert "result" stored here)

inductive RanOnce (retry : Retry) (codec : Json.Codec α) (operation : Action World α)
    (place : Place) (frame : Frame World) : Except TaskError α → Frame World → Prop where
  | unread {problem : StateError}
      (unread : frame.here.getOr .bool "done" false = .error problem) :
      RanOnce retry codec operation place frame (.error (.state problem)) frame
  | recalled (done : frame.here.getOr .bool "done" false = .ok true) :
      RanOnce retry codec operation place frame
        ((frame.here.getNullable codec "result").mapError .state) frame
  | stopped {error : TaskError} {after : Frame World}
      (undone : frame.here.getOr .bool "done" false = .ok false)
      (ran : retry.attempt operation place frame = (.error error, after)) :
      RanOnce retry codec operation place frame (.error error) after
  | unstored {value : α} {source : Json.WriteError} {after : Frame World}
      (undone : frame.here.getOr .bool "done" false = .ok false)
      (ran : retry.attempt operation place frame = (.ok value, after))
      (refused : codec.encode value = .error source) :
      RanOnce retry codec operation place frame (.error (.state (.encode "result" source))) after
  | stored {value : α} {stored : Json} {after : Frame World}
      (undone : frame.here.getOr .bool "done" false = .ok false)
      (ran : retry.attempt operation place frame = (.ok value, after))
      (encoded : codec.encode value = .ok stored) :
      RanOnce retry codec operation place frame (.ok value)
        { after with here := kept after.here stored }

theorem once_cases (retry : Retry) (codec : Json.Codec α) (operation : Action World α)
    (place : Place) (frame : Frame World) :
    RanOnce retry codec operation place frame (retry.once codec operation place frame).1
      (retry.once codec operation place frame).2 := by
  cases read : frame.here.getOr .bool "done" false with
  | error problem =>
      simp only [once, bind, Action.bind, Action.getOr, read, Action.ofState, Action.fail]
      exact .unread read
  | ok done =>
      cases done with
      | true =>
          have recalled : RanOnce retry codec operation place frame
              ((frame.here.getNullable codec "result").mapError .state) frame := .recalled read
          simp only [once, bind, Action.bind, Action.getOr, read, Action.ofState, Action.pure,
            if_true, Action.getNullable]
          cases found : frame.here.getNullable codec "result" with
          | error problem =>
              rw [found] at recalled
              exact recalled
          | ok value =>
              rw [found] at recalled
              exact recalled
      | false =>
          simp only [once, bind, Action.bind, Action.getOr, read, Action.ofState, Action.pure,
            Bool.false_eq_true, if_false]
          cases ran : retry.attempt operation place frame with
          | mk result after =>
              cases result with
              | error error => exact .stopped read ran
              | ok value =>
                  cases encoded : codec.encode value with
                  | error source =>
                      simp only [Action.set, Document.set, encoded]
                      exact .unstored read ran encoded
                  | ok stored =>
                      simp only [Action.set, Document.set, encoded]
                      exact .stored read ran encoded

theorem ranOnce {retry : Retry} {codec : Json.Codec α} {operation : Action World α}
    {place : Place} {frame after : Frame World} {result : Except TaskError α}
    (ran : retry.once codec operation place frame = (result, after)) :
    RanOnce retry codec operation place frame result after := by
  have cases := once_cases retry codec operation place frame
  rwa [ran] at cases

-- Once the flag is read, only the attempt itself can suspend.
theorem once_suspended {retry : Retry} {codec : Json.Codec α} {operation : Action World α}
    {place : Place} {frame after : Frame World} {suspension : Suspension}
    (ended : retry.once codec operation place frame = (.error (.suspended suspension), after)) :
    frame.here.getOr .bool "done" false = .ok false ∧
      retry.attempt operation place frame = (.error (.suspended suspension), after) := by
  have happened := ranOnce ended
  generalize same : (Except.error (TaskError.suspended suspension) : Except TaskError α) = result
    at happened
  cases happened with
  | unread _ => cases same
  | recalled _ =>
      cases read : frame.here.getNullable codec "result" with
      | error problem =>
          rw [read] at same
          cases same
      | ok value =>
          rw [read] at same
          cases same
  | stopped undone ran =>
      cases same
      exact ⟨undone, ran⟩
  | unstored _ _ _ => cases same
  | stored _ _ _ => cases same

theorem once_of_stopped {retry : Retry} (codec : Json.Codec α) {operation : Action World α}
    {place : Place} {frame after : Frame World} {error : TaskError}
    (undone : frame.here.getOr .bool "done" false = .ok false)
    (ran : retry.attempt operation place frame = (.error error, after)) :
    retry.once codec operation place frame = (.error error, after) := by
  simp only [once, bind, Action.bind, Action.getOr, undone, Action.ofState, Action.pure,
    Bool.false_eq_true, if_false, ran]

end Resumable.Retry
