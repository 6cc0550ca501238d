import Resumable.Polling
import Resumable.Proofs.Apart

/-!
Scopes on paths that part do not see each other. A program that reads and writes its scope does the
same wherever the scope lies, whatever is around it; only a suspension takes the whole document
along. So two programs in such scopes can change places.
-/

namespace Resumable

/-- The error without the document that a suspension carries. -/
def TaskError.bare : TaskError → TaskError
  | .suspended suspension => .suspended { suspension with state := [] }
  | error => error

namespace Action

variable {World α β : Type}

/-- What two runs leave behind is the same, but for the documents of suspensions. -/
structure Alike (first second : Except TaskError α × Frame World) : Prop where
  result : first.1.mapError TaskError.bare = second.1.mapError TaskError.bare
  frame : first.2 = second.2

/-- The actions do the same, wherever their scopes lie. -/
def Matches (first second : Action World α) : Prop :=
  ∀ place other frame, Alike (first place frame) (second other frame)

/-- The action does the same wherever its scope lies. -/
def Blind (action : Action World α) : Prop := Matches action action

theorem alike_refl (ran : Except TaskError α × Frame World) : Alike ran ran := ⟨rfl, rfl⟩

theorem alike_cases {first second : Except TaskError α × Frame World} (alike : Alike first second) :
    (∃ value after, first = (.ok value, after) ∧ second = (.ok value, after)) ∨
      ∃ error other after, first = (.error error, after) ∧ second = (.error other, after) ∧
        error.bare = other.bare := by
  obtain ⟨result, frame⟩ := alike
  rcases first with ⟨error | value, after⟩
  · rcases second with ⟨other | value, last⟩
    · cases frame
      exact .inr ⟨error, other, after, rfl, rfl, Except.error.inj result⟩
    · cases result
  · rcases second with ⟨other | same, last⟩
    · cases result
    · cases frame
      cases result
      exact .inl ⟨value, after, rfl, rfl⟩

/-- Code that is given what is in scope and nothing of the place. -/
def code (body : Frame World → Except TaskError α × Frame World) : Action World α :=
  fun _ frame => body frame

/-- Runs a handler if the body does not return. The handler sees the error without the document of a
suspension; it may give a value in place of the error, or none to let the error pass. -/
def rescue (body : Action World α) (handler : TaskError → Action World (Option α)) :
    Action World α := do
  match ← body.outcome with
  | .ok value => return value
  | .error error => do
      match ← handler error.bare with
      | some value => return value
      | none => fail error

theorem blind_code (body : Frame World → Except TaskError α × Frame World) : Blind (code body) :=
  fun _ _ frame => alike_refl (body frame)

theorem blind_pure (value : α) : Blind (pure value : Action World α) := blind_code _

theorem blind_fail (error : TaskError) : Blind (fail error : Action World α) := blind_code _

theorem blind_log (event : Event) : Blind (log event : Action World Unit) := blind_code _

theorem blind_clock : Blind (clock : Action World Clock) := blind_code _

theorem blind_set (codec : Json.Codec α) (key : String) (value : α) :
    Blind (set codec key value : Action World Unit) := blind_code _

theorem blind_remove (key : String) : Blind (remove key : Action World (Option Json)) :=
  blind_code _

theorem blind_ofState (result : Except StateError α) : Blind (ofState result : Action World α) := by
  cases result with
  | ok value => exact blind_pure value
  | error error => exact blind_fail (.state error)

theorem blind_get (codec : Json.Codec α) (key : String) :
    Blind (get codec key : Action World (Option α)) :=
  fun place other frame => blind_ofState (frame.here.get codec key) place other frame

theorem blind_getOr (codec : Json.Codec α) (key : String) (default : α) :
    Blind (getOr codec key default : Action World α) :=
  fun place other frame => blind_ofState (frame.here.getOr codec key default) place other frame

theorem blind_getNullable (codec : Json.Codec α) (key : String) :
    Blind (getNullable codec key : Action World α) :=
  fun place other frame => blind_ofState (frame.here.getNullable codec key) place other frame

-- The document that a suspension takes along is all that it has of the place.
theorem blind_suspend (seconds : Nat) : Blind (suspend seconds : Action World α) :=
  fun _ _ _ => ⟨rfl, rfl⟩

theorem matches_fail {error other : TaskError} (bare : error.bare = other.bare) :
    Matches (fail error : Action World α) (fail other) :=
  fun _ _ _ => ⟨congrArg Except.error bare, rfl⟩

theorem matches_bind {first second : Action World α} {next last : α → Action World β}
    (before : Matches first second) (later : ∀ value, Matches (next value) (last value)) :
    Matches (bind first next) (bind second last) := by
  intro place other frame
  simp only [bind]
  rcases alike_cases (before place other frame) with
    ⟨value, after, here, there⟩ | ⟨error, moved, after, here, there, bare⟩
  · rw [here, there]
    exact later value place other after
  · rw [here, there]
    exact ⟨congrArg Except.error bare, rfl⟩

theorem blind_bind {first : Action World α} {next : α → Action World β} (before : first.Blind)
    (later : ∀ value, (next value).Blind) : Blind (bind first next) :=
  matches_bind before later

/-- What follows an outcome may look at it, but not at the document of a suspension. -/
theorem blind_outcome {body : Action World α} {next : Except TaskError α → Action World β}
    (inner : body.Blind) (returned : ∀ value, (next (.ok value)).Blind)
    (failed : ∀ error other : TaskError, error.bare = other.bare →
      Matches (next (.error error)) (next (.error other))) :
    Blind (bind body.outcome next) := by
  intro place other frame
  simp only [bind, outcome]
  rcases alike_cases (inner place other frame) with
    ⟨value, after, here, there⟩ | ⟨error, moved, after, here, there, bare⟩
  · rw [here, there]
    exact returned value place other after
  · rw [here, there]
    exact failed error moved bare place other after

theorem blind_nested {action : Action World α} (inner : action.Blind) (key : String) :
    Blind (nested key action) := by
  intro place other frame
  have alike := inner (place.within key frame.here) (other.within key frame.here)
    { frame with here := frame.here.child key }
  refine ⟨alike.result, ?_⟩
  simp only [nested, alike.frame]

theorem blind_rescue {body : Action World α} {handler : TaskError → Action World (Option α)}
    (inner : body.Blind) (handles : ∀ error, (handler error).Blind) :
    Blind (rescue body handler) := by
  rw [rescue]
  apply blind_outcome inner
  · intro value
    exact blind_pure value
  · intro error other bare
    have handler : Matches (handler error.bare) (handler other.bare) := bare ▸ handles error.bare
    apply matches_bind handler
    intro found
    cases found with
    | some value => exact blind_pure value
    | none => exact matches_fail bare

end Action

open Resumable.Action

variable {World α : Type}

namespace Retry

theorem failure?_bare (error : TaskError) : failure? error.bare = failure? error := by
  cases error <;> rfl

theorem blind_onFailure (retry : Retry) (failure : Failure) :
    Blind (retry.onFailure failure : Action World α) := by
  rw [onFailure]
  split
  · apply blind_bind (blind_getOr _ _ _)
    intro attempt
    apply blind_bind (blind_set _ _ _)
    intro _
    exact blind_bind (blind_log _) fun _ => blind_suspend _
  · exact blind_bind (blind_log _) fun _ => blind_fail _

theorem blind_attempt (retry : Retry) {operation : Action World α} (inner : operation.Blind) :
    Blind (retry.attempt operation) := by
  rw [attempt]
  apply blind_outcome (blind_nested inner "operation")
  · intro value
    exact blind_bind (blind_remove "retry") fun _ => blind_pure value
  · intro error other bare
    -- A retry sees the failure of its operation, and a suspension holds none.
    have same : failure? error = failure? other := by
      rw [← failure?_bare, bare, failure?_bare]
    simp only [same]
    cases failure? other with
    | some failure => exact retry.blind_onFailure failure
    | none => exact matches_fail bare

theorem blind_run (retry : Retry) {operation : Action World α} (inner : operation.Blind) :
    Blind (retry.run operation) :=
  blind_nested (retry.blind_attempt inner) retry.key

theorem blind_runOnce (retry : Retry) (codec : Json.Codec α) {operation : Action World α}
    (inner : operation.Blind) : Blind (retry.runOnce codec operation) := by
  apply blind_nested
  apply blind_bind (blind_getOr _ _ _)
  intro done
  cases done with
  | true => exact blind_getNullable codec "result"
  | false =>
      apply blind_bind (retry.blind_attempt inner)
      intro value
      apply blind_bind (blind_set _ _ _)
      intro _
      exact blind_bind (blind_set _ _ _) fun _ => blind_pure value

end Retry

namespace Polling

theorem blind_startTime (now : Int) : Blind (startTime now : Action World Int) := by
  apply blind_bind (blind_get _ _)
  intro found
  cases found with
  | some start => exact blind_pure start
  | none => exact blind_bind (blind_set _ _ _) fun _ => blind_pure now

theorem blind_checkDeadline (polling : Polling) (start now : Int) :
    Blind (polling.checkDeadline start now : Action World Unit) := by
  rw [checkDeadline]
  cases polling.timeout with
  | none => exact blind_pure ()
  | some timeout =>
      simp only []
      split
      · exact blind_bind (blind_log _) fun _ => blind_fail _
      · exact blind_pure ()

theorem blind_notReady (polling : Polling) : Blind (polling.notReady : Action World α) := by
  apply blind_bind (blind_getOr _ _ _)
  intro iteration
  apply blind_bind (blind_set _ _ _)
  intro _
  exact blind_bind (blind_log _) fun _ => blind_suspend _

theorem blind_check (polling : Polling) {operation : Action World (Option α)}
    (inner : operation.Blind) : Blind (polling.check operation) := by
  rw [check]
  apply blind_bind blind_clock
  intro clock
  apply blind_bind (blind_startTime _)
  intro start
  apply blind_bind (polling.blind_checkDeadline _ _)
  intro _
  apply blind_bind (blind_nested inner "operation")
  intro found
  cases found with
  | none => exact polling.blind_notReady
  | some value =>
      apply blind_bind (blind_remove _)
      intro _
      apply blind_bind (blind_remove _)
      intro _
      exact blind_bind (blind_remove _) fun _ => blind_pure value

theorem blind_awaitReady (polling : Polling) {operation : Action World (Option α)}
    (inner : operation.Blind) : Blind (polling.awaitReady operation) :=
  blind_nested (polling.blind_check inner) polling.key

theorem blind_awaitOnce (polling : Polling) (codec : Json.Codec α)
    {operation : Action World (Option α)} (inner : operation.Blind) :
    Blind (polling.awaitOnce codec operation) := by
  apply blind_nested
  apply blind_bind (blind_get _ _)
  intro found
  cases found with
  | some value => exact blind_pure value
  | none =>
      apply blind_bind (polling.blind_check inner)
      intro value
      exact blind_bind (blind_set _ _ _) fun _ => blind_pure value

end Polling

/-- Programs on a scope: reads and writes of it and other code of the task, handlers of errors, and
scopes, retries and waits to any depth. None of them reads the document around its scope. -/
inductive Scoped (World : Type) : Type → Type 1 where
  | code {α : Type} (body : Frame World → Except TaskError α × Frame World) : Scoped World α
  | suspend {α : Type} (seconds : Nat) : Scoped World α
  | bind {α β : Type} (first : Scoped World α) (next : α → Scoped World β) : Scoped World β
  | rescue {α : Type} (body : Scoped World α) (handler : TaskError → Scoped World (Option α)) :
      Scoped World α
  | nested {α : Type} (key : String) (body : Scoped World α) : Scoped World α
  | run {α : Type} (retry : Retry) (operation : Scoped World α) : Scoped World α
  | runOnce {α : Type} (retry : Retry) (codec : Json.Codec α) (operation : Scoped World α) :
      Scoped World α
  | awaitReady {α : Type} (polling : Polling) (operation : Scoped World (Option α)) :
      Scoped World α
  | awaitOnce {α : Type} (polling : Polling) (codec : Json.Codec α)
      (operation : Scoped World (Option α)) : Scoped World α

namespace Scoped

def action {α : Type} : Scoped World α → Action World α
  | .code body => Action.code body
  | .suspend seconds => Action.suspend seconds
  | .bind first next => Action.bind first.action fun value => (next value).action
  | .rescue body handler => Action.rescue body.action fun error => (handler error).action
  | .nested key body => Action.nested key body.action
  | .run retry operation => retry.run operation.action
  | .runOnce retry codec operation => retry.runOnce codec operation.action
  | .awaitReady polling operation => polling.awaitReady operation.action
  | .awaitOnce polling codec operation => polling.awaitOnce codec operation.action

theorem blind (program : Scoped World α) : program.action.Blind := by
  induction program with
  | code body => exact blind_code body
  | suspend seconds => exact blind_suspend seconds
  | bind first next before later => exact blind_bind before later
  | rescue body handler inner handles => exact blind_rescue inner handles
  | nested key body inner => exact blind_nested inner key
  | run retry operation inner => exact retry.blind_run inner
  | runOnce retry codec operation inner => exact retry.blind_runOnce codec inner
  | awaitReady polling operation inner => exact polling.blind_awaitReady inner
  | awaitOnce polling codec operation inner => exact polling.blind_awaitOnce codec inner

/-- Runs a program in the scope at the end of a path of a whole document. -/
def runAt (program : Scoped World α) (path : List String) (clock : Clock) (world : World)
    (document : Document) : Except TaskError α × Frame World :=
  (Action.nestedPath path program.action).run document clock world

/-- Two runs end with the same result, but for the document of a suspension, and the same report,
log, clock and world. -/
structure SameRun (first second : Except TaskError α × Frame World) : Prop where
  result : first.1.mapError TaskError.bare = second.1.mapError TaskError.bare
  report : first.2.report = second.2.report
  log : first.2.log = second.2.log
  clock : first.2.clock = second.2.clock
  world : first.2.world = second.2.world

theorem runAt_here (program : Scoped World α) (path : List String) (clock : Clock) (world : World)
    (document : Document) :
    ∃ inner, (program.runAt path clock world document).2.here = document.setWithin path inner := by
  rw [runAt, Action.run, nestedPath_eq]
  exact ⟨_, rfl⟩

theorem within_runAt {first second : List String} (apart : Apart first second)
    (program : Scoped World α) (clock : Clock) (world : World) (document : Document) :
    (program.runAt second clock world document).2.here.within first = document.within first := by
  obtain ⟨inner, wrote⟩ := program.runAt_here second clock world document
  rw [wrote]
  exact Document.within_setWithin_of_apart apart document inner

theorem valueAt?_runAt {first second : List String} (apart : Apart first second)
    (program : Scoped World α) (clock : Clock) (world : World) (document : Document) :
    (Json.object (program.runAt second clock world document).2.here).valueAt? first =
      (Json.object document).valueAt? first := by
  obtain ⟨inner, wrote⟩ := program.runAt_here second clock world document
  rw [wrote]
  exact Document.valueAt?_setWithin apart document inner

-- What a program does depends on the document at the end of its path, and on nothing else of it.
theorem runAt_congr (program : Scoped World α) {path : List String} (clock : Clock) (world : World)
    {document other : Document} (same : document.within path = other.within path) :
    ∃ inner,
      (program.runAt path clock world document).2.here = document.setWithin path inner ∧
        (program.runAt path clock world other).2.here = other.setWithin path inner ∧
        SameRun (program.runAt path clock world document)
          (program.runAt path clock world other) := by
  have alike := program.blind (Place.top.descend path document) (Place.top.descend path other)
    ⟨document.within path, .empty, [], clock, world⟩
  have report := congrArg Frame.report alike.frame
  have log := congrArg Frame.log alike.frame
  have moved := congrArg Frame.clock alike.frame
  have changed := congrArg Frame.world alike.frame
  rw [runAt, runAt, Action.run, Action.run, nestedPath_eq, nestedPath_eq]
  simp only [← same]
  refine ⟨_, rfl, ?_, alike.result, report, log, moved, changed⟩
  rw [alike.frame]

end Scoped

/-- Of two scopes on paths that part, a program in one leaves the value at the other as it was, and
two programs, one in each, come to the same in either order: the same document at the end and, but
for the document of a suspension, the same result of each. -/
theorem scopes_are_independent {First Second α β : Type} (left : Scoped First α)
    (right : Scoped Second β) {first second : List String} (forward : ¬ first <+: second)
    (backward : ¬ second <+: first) (document : Document) (leftClock rightClock : Clock)
    (leftWorld : First) (rightWorld : Second) :
    let runLeft := left.runAt first leftClock leftWorld
    let runRight := right.runAt second rightClock rightWorld
    let afterLeft := (runLeft document).2.here
    let afterRight := (runRight document).2.here
    (Json.object afterLeft).valueAt? second = (Json.object document).valueAt? second ∧
      (Json.object afterRight).valueAt? first = (Json.object document).valueAt? first ∧
      (runRight afterLeft).2.here = (runLeft afterRight).2.here ∧
      Scoped.SameRun (runLeft document) (runLeft afterRight) ∧
      Scoped.SameRun (runRight document) (runRight afterLeft) := by
  intro runLeft runRight afterLeft afterRight
  have apart : Apart first second := Apart.of_not_prefix forward backward
  obtain ⟨inner, wrote, rewrote, sameLeft⟩ := left.runAt_congr leftClock leftWorld
    (Scoped.within_runAt apart right rightClock rightWorld document).symm
  obtain ⟨other, laid, relaid, sameRight⟩ := right.runAt_congr rightClock rightWorld
    (Scoped.within_runAt apart.symm left leftClock leftWorld document).symm
  refine ⟨Scoped.valueAt?_runAt apart.symm left leftClock leftWorld document,
    Scoped.valueAt?_runAt apart right rightClock rightWorld document, ?_, sameLeft, sameRight⟩
  calc
    (runRight afterLeft).2.here = afterLeft.setWithin second other := relaid
    _ = (document.setWithin first inner).setWithin second other :=
      congrArg (fun seen => Document.setWithin seen second other) wrote
    _ = (document.setWithin second other).setWithin first inner :=
      Document.setWithin_comm apart document inner other
    _ = afterRight.setWithin first inner :=
      congrArg (fun seen => Document.setWithin seen first inner) laid.symm
    _ = (runLeft afterRight).2.here := rewrote.symm

/-- Fails and is to be tried again. -/
def busyCall : Scoped Unit Unit :=
  .run (.withKey "call") (.code fun frame => (.error (.other (.text "busy")), frame))

/-- Waits for something that is not there yet. -/
def idleWait : Scoped Unit Unit :=
  .awaitReady (.withKey "wait") (.code fun frame => (.ok none, frame))

/-- Neither scope is there, and what lies on the way to both is no object. -/
def blockedDocument : Document := [("jobs", .nat 17)]

theorem sibling_scopes_are_independent :
    ¬ ["jobs", "first"] <+: ["jobs", "second"] ∧ ¬ ["jobs", "second"] <+: ["jobs", "first"] ∧
      (let runLeft := busyCall.runAt ["jobs", "first"] ⟨0⟩ ()
       let runRight := idleWait.runAt ["jobs", "second"] ⟨0⟩ ()
       (runRight (runLeft blockedDocument).2.here).2.here =
         (runLeft (runRight blockedDocument).2.here).2.here) := by
  have forward : ¬ ["jobs", "first"] <+: ["jobs", "second"] := by decide
  have backward : ¬ ["jobs", "second"] <+: ["jobs", "first"] := by decide
  obtain ⟨_, _, same, _, _⟩ := scopes_are_independent busyCall idleWait forward backward
    blockedDocument ⟨0⟩ ⟨0⟩ () ()
  exact ⟨forward, backward, same⟩

end Resumable
