import Resumable.Proofs.Snapshot

/-!
Programs put together from code that does not suspend on its own, in sequence, in scopes, and in
retries and waits to any depth. A program that suspends was stopped at one place: by the innermost
retry or wait there, inside the retries and waits that had been entered around it.
-/

namespace Resumable

inductive Flow (World : Type) : Type → Type 1 where
  /-- Code that does not suspend, such as reads and writes of the scope and failures. -/
  | basic {α : Type} (action : Action World α) (quiet : action.Quiet) : Flow World α
  | bind {α β : Type} (first : Flow World α) (next : α → Flow World β) : Flow World β
  | nested {α : Type} (key : String) (body : Flow World α) : Flow World α
  | run {α : Type} (retry : Retry) (operation : Flow World α) : Flow World α
  | runOnce {α : Type} (retry : Retry) (codec : Json.Codec α) (operation : Flow World α) :
      Flow World α
  | awaitReady {α : Type} (polling : Polling) (operation : Flow World (Option α)) : Flow World α
  | awaitOnce {α : Type} (polling : Polling) (codec : Json.Codec α)
      (operation : Flow World (Option α)) : Flow World α

variable {World α : Type}

namespace Flow

def action {α : Type} : Flow World α → Action World α
  | .basic action _ => action
  | .bind first next => Action.bind first.action fun value => (next value).action
  | .nested key body => Action.nested key body.action
  | .run retry operation => retry.run operation.action
  | .runOnce retry codec operation => retry.runOnce codec operation.action
  | .awaitReady polling operation => polling.awaitReady operation.action
  | .awaitOnce polling codec operation => polling.awaitOnce codec operation.action

theorem snapshots (flow : Flow World α) : flow.action.Snapshots := by
  induction flow with
  | basic action quiet => exact Action.snapshots_of_quiet quiet
  | bind first next before later => exact Action.snapshots_bind before later
  | nested key body ih => exact Action.snapshots_nested ih key
  | run retry operation ih => exact retry.snapshots_run ih
  | runOnce retry codec operation ih => exact retry.snapshots_runOnce codec ih
  | awaitReady polling operation ih => exact polling.snapshots_awaitReady ih
  | awaitOnce polling codec operation ih => exact polling.snapshots_awaitOnce codec ih

end Flow

inductive Layer.Kind where
  | retry
  | wait
  deriving DecidableEq

def Layer.Kind.counter : Layer.Kind → String
  | .retry => "retry"
  | .wait => "iteration"

/-- A retry or a wait that a program has entered: the way to its scope, and its scope before. -/
structure Layer where
  kind : Layer.Kind
  path : List String
  entered : Document

namespace Layer

def under (key : String) (layer : Layer) : Layer := { layer with path := key :: layer.path }

/-- A layer through which a suspension passes keeps all of its scope but its operation's; a wait has
noted the time of its first check if it had none. -/
structure Undisturbed (layer : Layer) (scope : Document) : Prop where
  kept : ∀ key, key ≠ "operation" → (layer.kind = .wait → key ≠ "start_time") →
    Table.get? key scope = Table.get? key layer.entered
  started : layer.kind = .wait → Table.get? "start_time" scope =
      Table.get? "start_time" layer.entered ∨
    layer.entered.get .signed "start_time" = .ok none ∧ Table.has "start_time" scope = true

end Layer

/-- The place at which a program stops itself: the retry or wait that suspends, after so many
failures or answers "not ready" before, and the layers around it, the outermost first. -/
structure Raise where
  enclosing : List Layer
  raiser : Layer
  count : Nat
  interval : Interval
  base : Binary64

namespace Raise

def backoff (raise : Raise) : Nat := raise.interval.backoff raise.count raise.base

def under (key : String) (raise : Raise) : Raise :=
  { raise with
    enclosing := raise.enclosing.map (Layer.under key)
    raiser := raise.raiser.under key }

def through (kind : Layer.Kind) (key : String) (entered : Document) (raise : Raise) : Raise where
  enclosing := ⟨kind, [key], entered⟩ ::
    raise.enclosing.map fun layer => (layer.under "operation").under key
  raiser := (raise.raiser.under "operation").under key
  count := raise.count
  interval := raise.interval
  base := raise.base

end Raise

/-- A program stops itself here: the way from its start to the retry or wait that suspends. -/
inductive Raises : {α : Type} → Flow World α → Place → Frame World → Raise → Prop where
  | first {α β : Type} {first : Flow World α} {next : α → Flow World β} {place : Place}
      {frame : Frame World} {raise : Raise} (inner : Raises first place frame raise) :
      Raises (.bind first next) place frame raise
  | next {α β : Type} {first : Flow World α} {next : α → Flow World β} {place : Place}
      {frame middle : Frame World} {value : α} {raise : Raise}
      (ran : first.action place frame = (.ok value, middle))
      (inner : Raises (next value) place middle raise) :
      Raises (.bind first next) place frame raise
  | nested {α : Type} {key : String} {body : Flow World α} {place : Place} {frame : Frame World}
      {raise : Raise} (inner : Raises body (place.within key frame.here) (frame.enter key) raise) :
      Raises (.nested key body) place frame (raise.under key)
  | retries {α : Type} {retry : Retry} {operation : Flow World α} {place : Place}
      {frame after : Frame World} {error : TaskError} {failure : Failure} {attempts : Nat}
      (ran : Action.nested "operation" operation.action (place.within retry.key frame.here)
        (frame.enter retry.key) = (.error error, after))
      (found : Retry.failure? error = some failure) (admitted : retry.admits failure = true)
      (read : after.here.getOr .count "retry" 0 = .ok attempts) :
      Raises (.run retry operation) place frame
        ⟨[], ⟨.retry, [retry.key], frame.here.child retry.key⟩, attempts, retry.interval,
          Retry.base⟩
  | insideRetry {α : Type} {retry : Retry} {operation : Flow World α} {place : Place}
      {frame : Frame World} {raise : Raise}
      (inner : Raises operation
        ((place.within retry.key frame.here).within "operation" (frame.enter retry.key).here)
        ((frame.enter retry.key).enter "operation") raise) :
      Raises (.run retry operation) place frame
        (raise.through .retry retry.key (frame.here.child retry.key))
  | once {α : Type} {retry : Retry} {codec : Json.Codec α} {operation : Flow World α}
      {place : Place} {frame : Frame World} {raise : Raise}
      (undone : (frame.here.child retry.key).getOr .bool "done" false = .ok false)
      (inner : Raises (.run retry operation) place frame raise) :
      Raises (.runOnce retry codec operation) place frame raise
  | waits {α : Type} {polling : Polling} {operation : Flow World (Option α)} {place : Place}
      {frame opened after : Frame World} {start : Int} {iterations : Nat}
      (started : Polling.Started (polling.read frame.clock) (frame.enter polling.key) start opened)
      (inTime : ∀ timeout, ¬ polling.Overdue start (polling.read frame.clock) timeout)
      (ran : Action.nested "operation" operation.action (place.within polling.key frame.here)
        opened = (.ok none, after))
      (read : after.here.getOr .count "iteration" 0 = .ok iterations) :
      Raises (.awaitReady polling operation) place frame
        ⟨[], ⟨.wait, [polling.key], frame.here.child polling.key⟩, iterations, polling.interval,
          polling.base⟩
  | insideWait {α : Type} {polling : Polling} {operation : Flow World (Option α)} {place : Place}
      {frame opened : Frame World} {start : Int} {raise : Raise}
      (started : Polling.Started (polling.read frame.clock) (frame.enter polling.key) start opened)
      (inTime : ∀ timeout, ¬ polling.Overdue start (polling.read frame.clock) timeout)
      (inner : Raises operation
        ((place.within polling.key frame.here).within "operation" opened.here)
        (opened.enter "operation") raise) :
      Raises (.awaitReady polling operation) place frame
        (raise.through .wait polling.key (frame.here.child polling.key))
  | awaited {α : Type} {polling : Polling} {codec : Json.Codec α}
      {operation : Flow World (Option α)} {place : Place} {frame : Frame World} {raise : Raise}
      (unseen : (frame.here.child polling.key).get codec "result" = .ok none)
      (inner : Raises (.awaitReady polling operation) place frame raise) :
      Raises (.awaitOnce polling codec operation) place frame raise

end Resumable
