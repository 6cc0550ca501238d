import Resumable.Proofs.Host.Invocation

/-!
An invocation in single steps. Each step makes at most one call to the store or the queue, in the
order in which the invocation makes them: load, then save and enqueue or delete, then mark done. A
suspended attempt is enqueued again before the lock of the finished task is released.
-/

namespace Resumable

variable {World : Type}

/-- What an invocation does next. -/
inductive Phase where
  | loading
  | running (found : Option StateRecord)
  | saving (found : Option StateRecord) (suspension : Suspension)
  | enqueueing (found : Option StateRecord) (suspension : Suspension) (savedAt : Instant)
  | deleting (found : Option StateRecord) (ending : Except TaskFailure TaskResult)
  | releasing (status : InvocationStatus)
  | finished (status : InvocationStatus)

namespace Phase

def ended (found : Option StateRecord) : Except TaskFailure (Outcome TaskResult) → Phase
  | .ok (.completed result) => .deleting found (.ok result)
  | .ok (.suspended suspension) => .saving found suspension
  | .error failure => .deleting found (.error failure)

def statusOf : Except TaskFailure TaskResult → InvocationStatus
  | .ok result => .completed result
  | .error failure => .failed failure.document

def eventOf (attemptId : String) : Except TaskFailure TaskResult → Event
  | .ok _ => .completed attemptId
  | .error failure => .attemptFailed attemptId failure.message

def next (operator : Operator World) (task : QueuedTask) : Phase → HostAction World Phase
  | .loading => do
      let found ← Host.previous task.request.attemptId
      Host.logRestored task.request.attemptId found
      return .running found
  | .running found => do
      let outcome ← Host.runOperator operator (task.request.resuming found)
      return ended found outcome
  | .saving found suspension => do
      let now ← HostAction.now
      Host.save (.following task.request.attemptId suspension.state now found)
      return .enqueueing found suspension now
  | .enqueueing found suspension savedAt => do
      let interval := suspension.retryIntervalSeconds
      let readyAt := savedAt.addSeconds interval
      let lockId ← Host.enqueue ((task.request.resuming found).withState suspension.state) readyAt
      HostAction.log (.scheduled task.request.attemptId lockId interval readyAt)
      return .releasing (.scheduled lockId readyAt interval)
  | .deleting _ ending => do
      Host.forget task.request.attemptId
      HostAction.log (eventOf task.request.attemptId ending)
      return .releasing (statusOf ending)
  | .releasing status => do
      Host.markDone task.lockId
      return .finished status
  | .finished status => return .finished status

/-- Some steps of one invocation with nothing in between. -/
def iterate (operator : Operator World) (task : QueuedTask) : Nat → Phase → HostAction World Phase
  | 0, phase => pure phase
  | count + 1, phase => do
      let after ← next operator task phase
      iterate operator task count after

theorem iterate_deleting (operator : Operator World) (task : QueuedTask)
    (found : Option StateRecord) (ending : Except TaskFailure TaskResult) :
    iterate operator task 3 (.deleting found ending) =
      (do
        Host.forget task.request.attemptId
        HostAction.log (eventOf task.request.attemptId ending)
        Host.markDone task.lockId
        return .finished (statusOf ending)) := by
  simp only [iterate, next, bind_assoc, pure_bind]

theorem iterate_saving (operator : Operator World) (task : QueuedTask)
    (found : Option StateRecord) (suspension : Suspension) :
    iterate operator task 3 (.saving found suspension) =
      (do
        let status ← Host.recordSuspensionBy .standard (task.request.resuming found) found
          suspension
        Host.markDone task.lockId
        return .finished status) := by
  simp only [iterate, next, Host.recordSuspensionBy, TaskRequest.attemptId_resuming,
    bind_assoc, pure_bind]
  rfl

theorem iterate_running (operator : Operator World) (task : QueuedTask)
    (found : Option StateRecord) :
    iterate operator task 4 (.running found) =
      (do
        let status ← Host.concludeBy .standard operator task.lockId (task.request.resuming found)
          found
        return .finished status) := by
  have ran : iterate operator task 4 (.running found) =
      (do
        let outcome ← Host.runOperator operator (task.request.resuming found)
        iterate operator task 3 (ended found outcome)) := by
    rw [iterate, next, bind_assoc]
    simp only [pure_bind]
  rw [ran, Host.concludeBy, bind_assoc]
  refine bind_congr fun outcome => ?_
  rcases outcome with failure | result | suspension
  · simp only [ended, Host.settleBy, iterate_deleting, TaskRequest.attemptId_resuming, bind_assoc,
      pure_bind]
    rfl
  · simp only [ended, Host.settleBy, iterate_deleting, TaskRequest.attemptId_resuming, bind_assoc,
      pure_bind]
    rfl
  · simp only [ended, Host.settleBy, iterate_saving, bind_assoc, pure_bind]

/-- The steps of an invocation, with nothing in between, are the invocation. -/
theorem iterate_loading (operator : Operator World) (task : QueuedTask) :
    iterate operator task 5 .loading =
      (do
        let status ← Host.invoke operator task
        return .finished status) := by
  rw [iterate, next, Host.invoke, Host.invokeBy]
  simp only [bind_assoc, pure_bind, iterate_running]

/-- What was loaded, while it is to be replaced or deleted. -/
def found? : Phase → Option (Option StateRecord)
  | .running found | .saving found _ | .deleting found _ => some found
  | _ => none

def owns : Phase → Bool
  | .releasing _ | .finished _ => false
  | _ => true

def locks : Phase → Bool
  | .finished _ => false
  | _ => true

def saved? (task : QueuedTask) (host : Host World) : Phase → Option StateRecord
  | .saving found suspension =>
      some (.following task.request.attemptId suspension.state host.clock.now found)
  | _ => none

/-- What a step does to a host whose calls do not fail. -/
inductive Moved (task : QueuedTask) (host : Host World) : Phase → Phase → Host World → Prop where
  | loaded (log : Log) :
      Moved task host .loading (.running (Table.get? task.request.attemptId host.store))
        { host with log := log }
  | ran (found : Option StateRecord) (outcome : Except TaskFailure (Outcome TaskResult)) (log : Log)
      (clock : Clock) (world : World) :
      Moved task host (.running found) (ended found outcome)
        { host with log := log, clock := clock, world := world }
  | saved (found : Option StateRecord) (suspension : Suspension) :
      Moved task host (.saving found suspension)
        (.enqueueing found suspension host.clock.now)
        { host with
          store := host.store.save
            (.following task.request.attemptId suspension.state host.clock.now found) }
  | enqueued (found : Option StateRecord) (suspension : Suspension) (savedAt readyAt : Instant)
      (status : InvocationStatus) (log : Log) :
      Moved task host (.enqueueing found suspension savedAt) (.releasing status)
        { host with
          queue := (host.queue.enqueue ((task.request.resuming found).withState suspension.state)
            readyAt).1
          log := log }
  | deleted (found : Option StateRecord) (ending : Except TaskFailure TaskResult) (log : Log) :
      Moved task host (.deleting found ending) (.releasing (statusOf ending))
        { host with
          store := Table.erase task.request.attemptId host.store
          log := log }
  | released (status : InvocationStatus) :
      Moved task host (.releasing status) (.finished status)
        { host with queue := Host.released host.queue task.lockId }
  | idle (status : InvocationStatus) : Moved task host (.finished status) (.finished status) host

theorem next_moved {host : Host World} (calm : host.outages = []) (operator : Operator World)
    {task : QueuedTask} (phase : Phase)
    (delivered : phase.locks = true → Table.has task.lockId host.queue.delivered = true) :
    ∃ after last, next operator task phase host = (.ok after, last) ∧
      Moved task host phase after last := by
  cases phase with
  | loading =>
      simp only [next, bind, HostAction.bind, Host.previous_eq calm]
      cases found : Table.get? task.request.attemptId host.store with
      | none => exact ⟨_, _, rfl, found ▸ .loaded host.log⟩
      | some record => exact ⟨_, _, rfl, found ▸ .loaded _⟩
  | running found => exact ⟨_, _, rfl, .ran found _ _ _ _⟩
  | saving found suspension =>
      simp only [next, bind, HostAction.bind, HostAction.now, HostAction.nowBy, Host.save,
        HostAction.calling_eq calm]
      exact ⟨_, _, rfl, .saved found suspension⟩
  | enqueueing found suspension savedAt =>
      simp only [next, bind, HostAction.bind, Host.enqueue, HostAction.calling_eq calm]
      exact ⟨_, _, rfl, .enqueued found suspension savedAt _ _ _⟩
  | deleting found ending =>
      simp only [next, bind, HostAction.bind, Host.forget_eq calm]
      exact ⟨_, _, rfl, .deleted found ending _⟩
  | releasing status =>
      simp only [next, bind, HostAction.bind, Host.markDone_eq calm (delivered rfl)]
      exact ⟨_, _, rfl, .released status⟩
  | finished status => exact ⟨_, _, rfl, .idle status⟩

end Phase

end Resumable
