import Resumable.Proofs.Snapshot

/-!
Steps that keep their results, and what one execution of a step shows. The calls of operations and
the ends of steps are noted as events beside the world of the task. An operation runs on the world
alone, so it can neither read nor change what has been noted.
-/

namespace Resumable

variable {World Other α : Type}

def Frame.withWorld (frame : Frame World) (other : Other) : Frame Other :=
  ⟨frame.here, frame.report, frame.log, frame.clock, other⟩

namespace Memo

structure Noted (World Event : Type) where
  world : World
  events : List Event

/-- The types of the values that the steps of a task keep, by key, and how they are stored. -/
structure Results where
  Value : String → Type
  codec : (key : String) → Json.Codec (Value key)

inductive Event (results : Results) where
  /-- The operation of the step is called. -/
  | invoked (key : String)
  | succeeded (key : String) (value : results.Value key)
  /-- The step ends, with or without a call of its operation. -/
  | finished (key : String) (result : Except TaskError (results.Value key))

inductive Mode where
  | once
  | awaited
  deriving DecidableEq

inductive Step (World : Type) (results : Results) where
  | once (retry : Retry) (operation : Action World (results.Value retry.key))
  | awaited (polling : Polling) (operation : Action World (Option (results.Value polling.key)))
  /-- Other code between the steps that keep a result. -/
  | aside (action : Action World Unit)

variable {results : Results}

def Event.key : Event results → String
  | .invoked key | .succeeded key _ | .finished key _ => key

def Step.memo? : Step World results → Option (Mode × String)
  | .once retry _ => some (.once, retry.key)
  | .awaited polling _ => some (.awaited, polling.key)
  | .aside _ => none

/-- Suspensions of the step's own code carry the root document as it is when that code returns. -/
def Step.Snapshots : Step World results → Prop
  | .once _ operation => operation.Snapshots
  | .awaited _ operation => operation.Snapshots
  | .aside action => action.Snapshots

def unseen (action : Action World α) : Action (Noted World (Event results)) α :=
  fun place frame =>
    let (result, after) := action place (frame.withWorld frame.world.world)
    (result, after.withWorld ⟨after.world, frame.world.events⟩)

/-- An answer of the operation as an event, if it is the success of the step. -/
def shown (key : String) (success : α → Option (results.Value key)) :
    Except TaskError α → List (Event results)
  | .ok answer => (success answer).toList.map (.succeeded key)
  | .error _ => []

def calling (key : String) (success : α → Option (results.Value key))
    (operation : Action World α) : Action (Noted World (Event results)) α :=
  fun place frame =>
    let (result, after) := operation place (frame.withWorld frame.world.world)
    (result, after.withWorld
      ⟨after.world, frame.world.events ++ .invoked key :: shown key success result⟩)

def finishing (key : String) (step : Action (Noted World (Event results)) (results.Value key)) :
    Action (Noted World (Event results)) Unit :=
  fun place frame =>
    let (result, after) := step place frame
    (result.map fun _ => (),
      after.withWorld ⟨after.world.world, after.world.events ++ [.finished key result]⟩)

def Step.run : Step World results → Action (Noted World (Event results)) Unit
  | .once retry operation =>
      finishing retry.key
        (retry.runOnce (results.codec retry.key) (calling retry.key some operation))
  | .awaited polling operation =>
      finishing polling.key
        (polling.awaitOnce (results.codec polling.key) (calling polling.key id operation))
  | .aside action => unseen action

/-- The steps in order, up to the first that ends with an error. -/
def runSteps : List (Step World results) → Action (Noted World (Event results)) Unit
  | [] => Action.pure ()
  | step :: rest => Action.bind step.run fun _ => runSteps rest

theorem runSteps_of_ok {step : Step World results} {rest : List (Step World results)}
    {place : Place} {frame middle : Frame (Noted World (Event results))}
    (ran : step.run place frame = (.ok (), middle)) :
    runSteps (step :: rest) place frame = runSteps rest place middle := by
  simp only [runSteps, Action.bind, ran]

theorem runSteps_of_error {step : Step World results} {rest : List (Step World results)}
    {place : Place} {frame after : Frame (Noted World (Event results))} {error : TaskError}
    (ran : step.run place frame = (.error error, after)) :
    runSteps (step :: rest) place frame = (.error error, after) := by
  simp only [runSteps, Action.bind, ran]

theorem snapshots_unseen {action : Action World α} (inner : action.Snapshots) :
    (unseen action : Action (Noted World (Event results)) α).Snapshots := by
  intro place frame suspension after ended
  simp only [unseen, Prod.mk.injEq] at ended
  obtain ⟨result, rfl⟩ := ended
  exact inner place _ suspension _ (Prod.ext result rfl)

theorem snapshots_calling {operation : Action World α} (inner : operation.Snapshots) (key : String)
    (success : α → Option (results.Value key)) : (calling key success operation).Snapshots := by
  intro place frame suspension after ended
  simp only [calling, Prod.mk.injEq] at ended
  obtain ⟨result, rfl⟩ := ended
  exact inner place _ suspension _ (Prod.ext result rfl)

theorem snapshots_finishing {key : String}
    {step : Action (Noted World (Event results)) (results.Value key)} (inner : step.Snapshots) :
    (finishing key step).Snapshots := by
  intro place frame suspension after ended
  simp only [finishing, Prod.mk.injEq] at ended
  obtain ⟨result, rfl⟩ := ended
  cases ran : step place frame with
  | mk ending middle =>
      cases ending with
      | ok value => simp [ran, Except.map] at result
      | error error =>
          simp only [ran, Except.map, Except.error.injEq] at result
          subst result
          exact inner place frame suspension middle ran

theorem Step.snapshots_run {step : Step World results} (inner : step.Snapshots) :
    step.run.Snapshots := by
  cases step with
  | once retry operation =>
      exact snapshots_finishing (retry.snapshots_runOnce _ (snapshots_calling inner _ _))
  | awaited polling operation =>
      exact snapshots_finishing (polling.snapshots_awaitOnce _ (snapshots_calling inner _ _))
  | aside action => exact snapshots_unseen inner

theorem snapshots_runSteps {steps : List (Step World results)}
    (inner : ∀ step ∈ steps, step.Snapshots) : (runSteps steps).Snapshots := by
  induction steps with
  | nil => exact Action.snapshots_of_quiet (Action.quiet_pure ())
  | cons step rest ih =>
      exact Action.snapshots_bind (step.snapshots_run (inner step List.mem_cons_self)) fun _ =>
        ih fun later member => inner later (List.mem_cons_of_mem step member)

end Memo

end Resumable
