import Resumable.Proofs.Causes
import Resumable.Proofs.Flow.Suspension
import Resumable.Proofs.Operator

/-!
What ends for good passes through the retries and waits around it. An action is followed down to one
inside it, through the layers that are entered on the way; an error that holds no failure, such as
that of a retry that has given up, comes back from there unchanged and is counted by none of the
layers. So the host is told the message of the retry that gave up, and behind it every message of
the error that it gave up on.
-/

namespace Resumable

variable {World α β : Type}

/-- The layers of an operation and around them their own, the outermost first. -/
def Layer.through (kind : Kind) (key : String) (entered : Document) (layers : List Layer) :
    List Layer :=
  ⟨kind, [key], entered⟩ :: layers.map fun layer => (layer.under "operation").under key

/-- From its start an action comes to the action `inner`, which starts at a place and a frame of its
own, inside the layers entered on the way. -/
inductive Action.Reaches (inner : Action World β) (deep : Place) (start : Frame World) :
    {α : Type} → Action World α → Place → Frame World → List Layer → Prop where
  | here : Reaches inner deep start inner deep start []
  | first {α γ : Type} {first : Action World α} {next : α → Action World γ} {place : Place}
      {frame : Frame World} {layers : List Layer}
      (within : Reaches inner deep start first place frame layers) :
      Reaches inner deep start (Action.bind first next) place frame layers
  | next {α γ : Type} {first : Action World α} {next : α → Action World γ} {place : Place}
      {frame middle : Frame World} {value : α} {layers : List Layer}
      (ran : first place frame = (.ok value, middle))
      (within : Reaches inner deep start (next value) place middle layers) :
      Reaches inner deep start (Action.bind first next) place frame layers
  | nested {α : Type} {key : String} {body : Action World α} {place : Place}
      {frame : Frame World} {layers : List Layer}
      (within : Reaches inner deep start body (place.within key frame.here) (frame.enter key)
        layers) :
      Reaches inner deep start (Action.nested key body) place frame (layers.map (.under key))
  | retry {α : Type} {retry : Retry} {operation : Action World α} {place : Place}
      {frame : Frame World} {layers : List Layer}
      (within : Reaches inner deep start operation
        ((place.within retry.key frame.here).within "operation" (frame.enter retry.key).here)
        ((frame.enter retry.key).enter "operation") layers) :
      Reaches inner deep start (retry.run operation) place frame
        (Layer.through .retry retry.key (frame.here.child retry.key) layers)
  | once {α : Type} {retry : Retry} {codec : Json.Codec α} {operation : Action World α}
      {place : Place} {frame : Frame World} {layers : List Layer}
      (undone : (frame.here.child retry.key).getOr .bool "done" false = .ok false)
      (within : Reaches inner deep start (retry.run operation) place frame layers) :
      Reaches inner deep start (retry.runOnce codec operation) place frame layers
  | wait {α : Type} {polling : Polling} {operation : Action World (Option α)} {place : Place}
      {frame opened : Frame World} {began : Int} {layers : List Layer}
      (started : Polling.Started (polling.read frame.clock) (frame.enter polling.key) began opened)
      (inTime : ∀ timeout, ¬ polling.Overdue began (polling.read frame.clock) timeout)
      (within : Reaches inner deep start operation
        ((place.within polling.key frame.here).within "operation" opened.here)
        (opened.enter "operation") layers) :
      Reaches inner deep start (polling.awaitReady operation) place frame
        (Layer.through .wait polling.key (frame.here.child polling.key) layers)
  | awaited {α : Type} {polling : Polling} {codec : Json.Codec α}
      {operation : Action World (Option α)} {place : Place} {frame : Frame World}
      {layers : List Layer}
      (unseen : (frame.here.child polling.key).get codec "result" = .ok none)
      (within : Reaches inner deep start (polling.awaitReady operation) place frame layers) :
      Reaches inner deep start (polling.awaitOnce codec operation) place frame layers

/-- All these layers have kept what is theirs. -/
def Layer.Untouched (layers : List Layer) (left : Document) : Prop :=
  ∀ layer ∈ layers, layer.Undisturbed (left.within layer.path)

namespace Layer.Untouched

variable {layers : List Layer} {left : Document}

theorem nil : Untouched [] left := by
  intro layer member
  cases member

theorem under (untouched : Untouched layers left) (key : String) (outer : Document) :
    Untouched (layers.map (Layer.under key)) (outer.setChild key left) := by
  intro layer member
  obtain ⟨inner, within, rfl⟩ := List.mem_map.mp member
  have kept := untouched inner within
  rw [Layer.under, Document.within_cons, Document.child_setChild]
  exact ⟨kept.kept, kept.started⟩

theorem through (untouched : Untouched layers left) {kind : Layer.Kind} {key : String}
    {entered scope : Document} (outer : Document)
    (around : Layer.Undisturbed ⟨kind, [key], entered⟩ (scope.setChild "operation" left)) :
    Untouched (Layer.through kind key entered layers)
      (outer.setChild key (scope.setChild "operation" left)) := by
  intro layer member
  rcases List.mem_cons.mp member with rfl | further
  · rw [Document.within_cons, Document.child_setChild, Document.within_nil]
    exact around
  · apply (untouched.under "operation" scope).under key outer
    rwa [List.map_map]

end Layer.Untouched

/-- An action ends with an error, and the layers around where it arose are untouched. -/
def Action.EndsWith (action : Action World α) (place : Place) (frame : Frame World)
    (error : TaskError) (layers : List Layer) : Prop :=
  ∃ after, action place frame = (.error error, after) ∧ Layer.Untouched layers after.here

namespace Action.EndsWith

variable {place : Place} {frame : Frame World} {error : TaskError} {layers : List Layer}

theorem first {action : Action World α} (ends : action.EndsWith place frame error layers)
    (next : α → Action World β) : (Action.bind action next).EndsWith place frame error layers := by
  obtain ⟨after, ran, untouched⟩ := ends
  refine ⟨after, ?_, untouched⟩
  rw [Action.bind, ran]

theorem next {action : Action World α} {next : α → Action World β} {value : α}
    {middle : Frame World} (ran : action place frame = (.ok value, middle))
    (ends : (next value).EndsWith place middle error layers) :
    (Action.bind action next).EndsWith place frame error layers := by
  obtain ⟨after, ended, untouched⟩ := ends
  refine ⟨after, ?_, untouched⟩
  rw [Action.bind, ran]
  exact ended

theorem nested {key : String} {body : Action World α}
    (ends : body.EndsWith (place.within key frame.here) (frame.enter key) error layers) :
    (Action.nested key body).EndsWith place frame error (layers.map (.under key)) := by
  obtain ⟨inner, ran, untouched⟩ := ends
  exact ⟨_, Action.nested_eq ran, untouched.under key frame.here⟩

theorem retry {retry : Retry} {operation : Action World α}
    (ends : operation.EndsWith
      ((place.within retry.key frame.here).within "operation" (frame.enter retry.key).here)
      ((frame.enter retry.key).enter "operation") error layers)
    (final : Retry.failure? error = none) :
    (retry.run operation).EndsWith place frame error
      (Layer.through .retry retry.key (frame.here.child retry.key) layers) := by
  obtain ⟨inner, ran, untouched⟩ := ends
  have tried := retry.attempt_of_final (Action.nested_eq ran) final
  exact ⟨_, Action.nested_eq tried, untouched.through frame.here .retry⟩

theorem once {retry : Retry} {operation : Action World α} {codec : Json.Codec α}
    (undone : (frame.here.child retry.key).getOr .bool "done" false = .ok false)
    (ends : (retry.run operation).EndsWith place frame error layers) :
    (retry.runOnce codec operation).EndsWith place frame error layers := by
  obtain ⟨after, ended, untouched⟩ := ends
  obtain ⟨inner, tried, rfl⟩ := Action.of_nested ended
  exact ⟨_, Action.nested_eq (Retry.once_of_stopped codec undone tried), untouched⟩

theorem wait {polling : Polling} {operation : Action World (Option α)} {opened : Frame World}
    {began : Int}
    (started : Polling.Started (polling.read frame.clock) (frame.enter polling.key) began opened)
    (inTime : ∀ timeout, ¬ polling.Overdue began (polling.read frame.clock) timeout)
    (ends : operation.EndsWith
      ((place.within polling.key frame.here).within "operation" opened.here)
      (opened.enter "operation") error layers) :
    (polling.awaitReady operation).EndsWith place frame error
      (Layer.through .wait polling.key (frame.here.child polling.key) layers) := by
  obtain ⟨inner, ran, untouched⟩ := ends
  have checked : polling.check operation (place.within polling.key frame.here)
      (frame.enter polling.key) =
        (.error error, { inner with here := opened.here.setChild "operation" inner.here }) :=
    Polling.check_of_failed started inTime (Action.nested_eq ran)
  exact ⟨_, Action.nested_eq checked, untouched.through frame.here (.wait started)⟩

theorem awaited {polling : Polling} {operation : Action World (Option α)} {codec : Json.Codec α}
    (unseen : (frame.here.child polling.key).get codec "result" = .ok none)
    (ends : (polling.awaitReady operation).EndsWith place frame error layers) :
    (polling.awaitOnce codec operation).EndsWith place frame error layers := by
  obtain ⟨after, ended, untouched⟩ := ends
  obtain ⟨inner, checked, rfl⟩ := Action.of_nested ended
  exact ⟨_, Action.nested_eq (Polling.once_of_stopped unseen checked), untouched⟩

end Action.EndsWith

/-- An error that holds no failure comes back from any depth unchanged. -/
theorem Action.Reaches.passes {inner : Action World β} {deep : Place} {start last : Frame World}
    {outer : Action World α} {place : Place} {frame : Frame World} {layers : List Layer}
    {error : TaskError} (reaches : inner.Reaches deep start outer place frame layers)
    (ended : inner deep start = (.error error, last)) (final : Retry.failure? error = none) :
    outer.EndsWith place frame error layers := by
  induction reaches with
  | here => exact ⟨last, ended, .nil⟩
  | first _ ih => exact ih.first _
  | next ran _ ih => exact .next ran ih
  | nested _ ih => exact ih.nested
  | retry _ ih => exact ih.retry final
  | once undone _ ih => exact ih.once undone
  | wait started inTime _ ih => exact .wait started inTime ih
  | awaited unseen _ ih => exact ih.awaited unseen

/-- The operation of a retry fails, and the failure is not worth another try. -/
structure Retry.GivesUp (retry : Retry) (operation : Action World α) (place : Place)
    (frame : Frame World) (error : TaskError) (failure : Failure) : Prop where
  failed : ∃ after, operation
    ((place.within retry.key frame.here).within "operation" (frame.enter retry.key).here)
    ((frame.enter retry.key).enter "operation") = (.error error, after)
  found : Retry.failure? error = some failure
  refused : retry.admits failure = false

theorem Retry.GivesUp.run {retry : Retry} {operation : Action World α} {place : Place}
    {frame : Frame World} {error : TaskError} {failure : Failure}
    (givesUp : retry.GivesUp operation place frame error failure) :
    ∃ after, retry.run operation place frame =
      (.error (.failed (retry.message failure) failure), after) := by
  obtain ⟨after, ran⟩ := givesUp.failed
  obtain ⟨last, tried⟩ :=
    Retry.attempt_of_refused (Action.nested_eq ran) givesUp.found givesUp.refused
  exact ⟨_, Action.nested_eq tried⟩

/-- The document of an error that was given up under a message. -/
def ErrorDocument.givenUp (document : ErrorDocument) (message : String) : ErrorDocument :=
  ⟨message, "failed", document.message :: document.causes⟩

theorem Retry.document_failed {error : TaskError} {failure : Failure}
    (found : Retry.failure? error = some failure) (message : String) :
    TaskError.document (.failed message failure) = error.document.givenUp message := by
  have chain : failure.message :: failure.causes = error.message :: error.causes := by
    rw [← Failure.chain_eq, ← TaskError.chain_eq, Retry.chain_failure found]
  rw [TaskError.document, TaskError.causes, chain]
  rfl

/-- A retry that gives up on an error, inside whatever retries and waits: each action around it ends
with what the retry ended with, and no layer has counted it. The host gets the document of the error
with the message of the retry in front, whether the attempt fails or is retried as a whole: each
context and each source of the error is there once, in order. -/
theorem causes_reach_the_host {operator : Operator World} {request : TaskRequest} {clock : Clock}
    {world : World} {retry : Retry} {operation : Action World α} {deep : Place}
    {start : Frame World} {layers : List Layer} {error : TaskError} {failure : Failure}
    (reaches : (retry.run operation).Reaches deep start
      (operator.run request.taskName request.config) .top
      ⟨request.lastStateParams, .empty, [], clock, world⟩ layers)
    (givesUp : retry.GivesUp operation deep start error failure) :
    let document := error.document.givenUp (retry.message failure)
    (∀ (β : Type) (outer : Action World β) place frame layers,
        (retry.run operation).Reaches deep start outer place frame layers →
          outer.EndsWith place frame (.failed (retry.message failure) failure) layers) ∧
      document.causes = error.chain ∧
      (∀ contexts source, error = .other (contexts.foldr .context source) →
        document.causes = contexts ++ source.chain) ∧
      ∀ policy, RetryPolicy.prepare request.config request.lastStateParams
          operator.retryByDefault = .ok policy →
        (operator.invoke request clock world).outcome =
          if policy.admits then
            .ok (.suspended ⟨policy.nextInterval, operator.resumed policy, some document⟩)
          else .error ⟨document, .failed (retry.message failure) failure⟩ := by
  intro document
  obtain ⟨last, gaveUp⟩ := givesUp.run
  have causes : document.causes = error.chain := (TaskError.chain_eq error).symm
  refine ⟨?_, causes, ?_, ?_⟩
  · intro β outer place frame layers within
    exact within.passes gaveUp rfl
  · intro contexts source same
    rw [causes, same, TaskError.chain, Failure.chain_contexts]
  · intro policy prepared
    obtain ⟨after, ended, _⟩ := reaches.passes gaveUp rfl
    rw [Operator.invoke_of_failure ended rfl, Operator.afterFailure, prepared]
    have same := Retry.document_failed givesUp.found (retry.message failure)
    cases admitted : policy.admits with
    | true => simp only [admitted, if_true, TaskFailure.of, same, document, Operator.resumed]
    | false => simp only [admitted, TaskFailure.of, same, document, Bool.false_eq_true, if_false]

def submitError : TaskError := .other (.context "while submitting" (.text "connection reset"))

def submission : Action Unit (Option TaskResult) := Action.fail submitError

def misreadError : StateError := .decode "tries" (.mismatch (.wrongType (.bool true) "u32"))

/-- Finds a flag where it looks for a count. -/
def misreading : Action Unit (Option TaskResult) := do
  Action.set .bool "tries" true
  let _ ← Action.getOr .count "tries" 0
  return none

def submitRetry : Retry where
  key := "submit"
  interval := Retry.defaultInterval
  predicates := [fun _ => false]
  message _ := "Failed to submit job"

def jobPolling : Polling where
  key := "job"
  interval := Polling.defaultInterval
  base := Retry.base
  timeout := none
  message := "Job is not done"
  read := Clock.millis

/-- Submits within a wait, and the wait within a retry that tries everything again. -/
def submitOperator (operation : Action Unit (Option TaskResult)) : Operator Unit where
  run _ _ := (Retry.withKey "work").run (jobPolling.awaitReady (submitRetry.run operation))
  resetKeys := []
  retryByDefault := true

def submitRequest : TaskRequest := ⟨"attempt-1", "+submit", .empty, []⟩

/-- Where the submission is tried, and with what. -/
def submitPlace : Place :=
  (((Place.top.within "work" []).within "operation" []).within "job" []).within "operation"
    [("start_time", .int 0)]

def submitFrame : Frame Unit := ⟨[], .empty, [], ⟨0⟩, ()⟩

def submitLayers : List Layer :=
  Layer.through .retry "work" [] (Layer.through .wait "job" [] [])

theorem submitRetry_reached (operation : Action Unit (Option TaskResult)) :
    (submitRetry.run operation).Reaches submitPlace submitFrame
      ((submitOperator operation).run submitRequest.taskName submitRequest.config) .top submitFrame
      submitLayers := by
  have inTime : ∀ timeout, ¬ jobPolling.Overdue 0 0 timeout := by
    intro timeout overdue
    cases overdue.1
  have waited : (submitRetry.run operation).Reaches submitPlace submitFrame
      (jobPolling.awaitReady (submitRetry.run operation))
      ((Place.top.within "work" []).within "operation" []) submitFrame
      (Layer.through .wait "job" [] []) := .wait (.now rfl) inTime .here
  have reaches : (submitRetry.run operation).Reaches submitPlace submitFrame
      ((Retry.withKey "work").run (jobPolling.awaitReady (submitRetry.run operation))) .top
      submitFrame submitLayers := .retry waited
  exact reaches

/-- The host gets both messages of the context, and both of the error of the state. -/
theorem submission_is_given_up :
    (submitRetry.run submission).Reaches submitPlace submitFrame
        ((submitOperator submission).run submitRequest.taskName submitRequest.config) .top
        submitFrame submitLayers ∧
      submitRetry.GivesUp submission submitPlace submitFrame submitError
        (.context "while submitting" (.text "connection reset")) ∧
      ((submitOperator submission).invoke submitRequest ⟨0⟩ ()).outcome =
        .ok (.suspended ⟨0, [("retry_count", .nat 1)],
          some ⟨"Failed to submit job", "failed", ["while submitting", "connection reset"]⟩⟩) ∧
      submitRetry.GivesUp misreading submitPlace submitFrame (.state misreadError)
        (.state misreadError) ∧
      ((submitOperator misreading).invoke submitRequest ⟨0⟩ ()).outcome =
        .ok (.suspended ⟨0, [("retry_count", .nat 1)],
          some ⟨"Failed to submit job", "failed",
            ["Failed to read state key 'tries'",
              "invalid type: boolean `true`, expected u32"]⟩⟩) := by
  have givesUp : submitRetry.GivesUp submission submitPlace submitFrame submitError
      (.context "while submitting" (.text "connection reset")) := ⟨⟨_, rfl⟩, rfl, rfl⟩
  have misreads : submitRetry.GivesUp misreading submitPlace submitFrame (.state misreadError)
      (.state misreadError) := ⟨⟨_, rfl⟩, rfl, rfl⟩
  obtain ⟨_, _, _, reported⟩ := @causes_reach_the_host _ _ (submitOperator submission)
    submitRequest ⟨0⟩ () _ _ _ _ _ _ _ (submitRetry_reached submission) givesUp
  obtain ⟨_, _, _, passed⟩ := @causes_reach_the_host _ _ (submitOperator misreading)
    submitRequest ⟨0⟩ () _ _ _ _ _ _ _ (submitRetry_reached misreading) misreads
  refine ⟨submitRetry_reached submission, givesUp, ?_, misreads, ?_⟩
  · rw [reported _ rfl]
    rfl
  · rw [passed _ rfl]
    rfl

end Resumable
