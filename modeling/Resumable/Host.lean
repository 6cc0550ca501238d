import Resumable.Host.Queue
import Resumable.Operator

/-!
The host drives invocations: it takes a delivered request, restores the document of the attempt,
runs the operator once and records what came of it. Store and queue are reached by calls, each of
which either happens as a whole or fails and does nothing; after a failed call what was done before
stays.
-/

namespace Resumable

inductive Call where
  | load
  | save
  | delete
  | enqueue
  | poll
  | markDone
  deriving DecidableEq

structure Host (World : Type) where
  store : Store
  queue : Queue
  clock : Clock
  /-- Calls that are bound to fail, the next one first. -/
  outages : List (Call × StoreError)
  log : Log
  world : World

inductive InvocationStatus where
  | completed (result : TaskResult)
  | scheduled (lockId : String) (readyAt : Instant) (retryIntervalSeconds : Nat)
  | failed (error : ErrorDocument)

abbrev HostAction (World α : Type) := Host World → Except StoreError α × Host World

namespace HostAction

variable {World α β : Type}

def pure (value : α) : HostAction World α := fun host => (.ok value, host)

def bind (first : HostAction World α) (next : α → HostAction World β) : HostAction World β :=
  fun host =>
    match first host with
    | (.ok value, after) => next value after
    | (.error error, after) => (.error error, after)

instance : Monad (HostAction World) where
  pure := HostAction.pure
  bind := HostAction.bind

def fail (error : StoreError) : HostAction World α := fun host => (.error error, host)

def log (event : Event) : HostAction World Unit :=
  fun host => (.ok (), { host with log := host.log ++ [event] })

def nowBy (read : Clock → Instant) : HostAction World Instant :=
  fun host => (.ok (read host.clock), host)

def now : HostAction World Instant := nowBy Clock.now

/-- The outage a call meets, and the outages that are left. -/
def takeOutage (call : Call) :
    List (Call × StoreError) → Option (StoreError × List (Call × StoreError))
  | [] => none
  | outage :: rest =>
      if outage.1 = call then some (outage.2, rest)
      else (takeOutage call rest).map fun found => (found.1, outage :: found.2)

/-- Makes a call, unless it is bound to fail. -/
def calling (call : Call) (action : HostAction World α) : HostAction World α :=
  fun host =>
    match takeOutage call host.outages with
    | some (error, rest) => (.error error, { host with outages := rest })
    | none => action host

end HostAction

namespace Host

variable {World : Type}

/-- Enqueues without a call, as a client of the queue does. -/
def enqueueDirectly (request : TaskRequest) (readyAt : Instant) : HostAction World String :=
  fun host =>
    let (queue, lockId) := host.queue.enqueue request readyAt
    (.ok lockId,
      { host with
        queue := queue
        log := host.log ++ [.enqueued lockId request.attemptId readyAt] })

def enqueue (request : TaskRequest) (readyAt : Instant) : HostAction World String :=
  .calling .enqueue (enqueueDirectly request readyAt)

def load (attemptId : String) : HostAction World StateRecord :=
  .calling .load fun host => (host.store.load attemptId, host)

def save (record : StateRecord) : HostAction World Unit :=
  .calling .save fun host => (.ok (), { host with store := host.store.save record })

def delete (attemptId : String) : HostAction World Unit :=
  .calling .delete fun host =>
    match host.store.delete attemptId with
    | .ok store => (.ok (), { host with store := store })
    | .error error => (.error error, host)

def markDone (lockId : String) : HostAction World Unit :=
  .calling .markDone fun host =>
    match host.queue.markDone lockId with
    | .ok queue => (.ok (), { host with queue := queue })
    | .error error => (.error error, host)

def pollReady (limit : Nat) : HostAction World (List QueuedTask) :=
  .calling .poll fun host =>
    let (queue, tasks) := host.queue.pollReady host.clock.now limit
    (.ok tasks, { host with queue := queue })

/-- Enqueues the first invocation of an attempt, ready now. -/
def submit (request : TaskRequest) : HostAction World String := do
  let lockId ← enqueue request (← HostAction.now)
  HostAction.log (.submitted request.attemptId lockId)
  return lockId

/-- The record of an attempt; an attempt that has not suspended yet has none. -/
def previous (attemptId : String) : HostAction World (Option StateRecord) :=
  fun host =>
    match load attemptId host with
    | (.ok record, after) => (.ok (some record), after)
    | (.error (.notFound _), after) => (.ok none, after)
    | (.error error, after) => (.error error, after)

def forget (attemptId : String) : HostAction World Unit :=
  fun host =>
    match delete attemptId host with
    | (.error (.notFound _), after) => (.ok (), after)
    | other => other

def runOperator (operator : Operator World) (request : TaskRequest) :
    HostAction World (Except TaskFailure (Outcome TaskResult)) :=
  fun host =>
    let invocation := operator.invoke request host.clock host.world
    (.ok invocation.outcome,
      { host with
        log := host.log ++ invocation.log
        clock := invocation.clock
        world := invocation.world })

/-- Schedules the next invocation of a suspended attempt, by any timepiece. -/
def recordSuspensionBy (time : Timepiece) (request : TaskRequest)
    (previous : Option StateRecord) (suspension : Suspension) :
    HostAction World InvocationStatus := do
  let now ← HostAction.nowBy time.read
  save (.following request.attemptId suspension.state now previous)
  let interval := suspension.retryIntervalSeconds
  let readyAt := now.addSecondsBy time.add? interval
  let lockId ← enqueue (request.withState suspension.state) readyAt
  HostAction.log (.scheduled request.attemptId lockId interval readyAt)
  return .scheduled lockId readyAt interval

/-- Records what the operator came to, before the lock is released. -/
def settleBy (time : Timepiece) (request : TaskRequest) (found : Option StateRecord) :
    Except TaskFailure (Outcome TaskResult) → HostAction World InvocationStatus
  | .ok (.completed result) => do
      forget request.attemptId
      HostAction.log (.completed request.attemptId)
      return .completed result
  | .ok (.suspended suspension) => recordSuspensionBy time request found suspension
  | .error failure => do
      forget request.attemptId
      HostAction.log (.attemptFailed request.attemptId failure.message)
      return .failed failure.document

/-- What an invocation does once the document is restored. -/
def concludeBy (time : Timepiece) (operator : Operator World) (lockId : String)
    (request : TaskRequest) (found : Option StateRecord) : HostAction World InvocationStatus := do
  let outcome ← runOperator operator request
  let status ← settleBy time request found outcome
  markDone lockId
  return status

def logRestored (attemptId : String) : Option StateRecord → HostAction World Unit
  | some record => HostAction.log (.restored attemptId record.suspensions)
  | none => return ()

def invokeBy (time : Timepiece) (operator : Operator World) (task : QueuedTask) :
    HostAction World InvocationStatus := do
  let found ← previous task.request.attemptId
  logRestored task.request.attemptId found
  concludeBy time operator task.lockId (task.request.resuming found) found

/-- Runs one delivered request and records the outcome. -/
def invoke (operator : Operator World) (task : QueuedTask) : HostAction World InvocationStatus :=
  invokeBy .standard operator task

end Host

end Resumable
