import Resumable.Host
import Resumable.Proofs.Host.Queue

/-!
The calls of a host whose store and queue do not fail, each as one equation on the host. An
invocation runs the operator on the request with the document of the record, if there is one, and
leaves a host in which the outcome is recorded and the lock is released. It fails as a call only if
there was no lock to release.
-/

namespace Resumable

variable {World α : Type}

namespace HostAction

variable {β γ : Type}

theorem calling_eq {call : Call} {action : HostAction World α} {host : Host World}
    (calm : host.outages = []) : HostAction.calling call action host = action host := by
  rw [HostAction.calling, calm]
  rfl

theorem map_id (action : HostAction World α) : id <$> action = action := by
  funext host
  change HostAction.bind action HostAction.pure host = action host
  simp only [HostAction.bind]
  rcases action host with ⟨_ | _, after⟩ <;> rfl

theorem bind_bind (first : HostAction World α) (next : α → HostAction World β)
    (last : β → HostAction World γ) :
    first >>= next >>= last = first >>= fun value => next value >>= last := by
  funext host
  simp only [Bind.bind, HostAction.bind]
  rcases first host with ⟨_ | _, after⟩ <;> rfl

instance : LawfulMonad (HostAction World) :=
  .mk' _ map_id (fun _ _ => rfl) bind_bind

end HostAction

theorem Store.get?_save {store : Store} {record : StateRecord} (attemptId : String) :
    Table.get? attemptId (store.save record) =
      if attemptId = record.attemptId then some record else Table.get? attemptId store := by
  split
  · rename_i same
    rw [same, Store.save, Table.get?_insert_self]
  · rename_i different
    exact Table.get?_insert_of_ne different record store

namespace Host

/-- The request that an invocation runs on. -/
def restored (host : Host World) (request : TaskRequest) : TaskRequest :=
  request.resuming (Table.get? request.attemptId host.store)

def recordAfter (host : Host World) (attemptId : String) (state : Document) (now : Instant) :
    StateRecord :=
  .following attemptId state now (Table.get? attemptId host.store)

def released (queue : Queue) (lockId : String) : Queue :=
  { queue with delivered := Table.erase lockId queue.delivered }

/-- The host after an invocation that ended the attempt. -/
def closed (host : Host World) (task : QueuedTask) (ran : Operator.Invocation World) (log : Log) :
    Host World where
  store := Table.erase task.request.attemptId host.store
  queue := released host.queue task.lockId
  clock := ran.clock
  outages := []
  log := log
  world := ran.world

/-- The host after an invocation that suspended the attempt. -/
def parked (host : Host World) (task : QueuedTask) (ran : Operator.Invocation World)
    (suspension : Suspension) (log : Log) : Host World where
  store := host.store.save
    (host.recordAfter task.request.attemptId suspension.state ran.clock.now)
  queue := released (host.queue.enqueue ((host.restored task.request).withState suspension.state)
    (ran.clock.now.addSeconds suspension.retryIntervalSeconds)).1 task.lockId
  clock := ran.clock
  outages := []
  log := log
  world := ran.world

/-- How an invocation is recorded. -/
inductive Recorded (host : Host World) (task : QueuedTask) (ran : Operator.Invocation World) :
    InvocationStatus → Host World → Prop where
  | completed {result : TaskResult} (outcome : ran.outcome = .ok (.completed result)) (log : Log) :
      Recorded host task ran (.completed result) (host.closed task ran log)
  | failed {failure : TaskFailure} (outcome : ran.outcome = .error failure) (log : Log) :
      Recorded host task ran (.failed failure.document) (host.closed task ran log)
  | suspended {suspension : Suspension} (outcome : ran.outcome = .ok (.suspended suspension))
      (log : Log) :
      Recorded host task ran
        (.scheduled (Queue.lockName (host.queue.issued + 1))
          (ran.clock.now.addSeconds suspension.retryIntervalSeconds)
          suspension.retryIntervalSeconds)
        (host.parked task ran suspension log)

theorem submit_eq {host : Host World} (calm : host.outages = []) (request : TaskRequest) :
    ∃ log, submit request host =
      (.ok (Queue.lockName (host.queue.issued + 1)),
        { host with queue := (host.queue.enqueue request host.clock.now).1, log := log }) := by
  simp only [submit, bind, HostAction.bind, HostAction.now, HostAction.nowBy, enqueue,
    HostAction.calling_eq calm]
  exact ⟨_, rfl⟩

theorem pollReady_eq {host : Host World} (calm : host.outages = []) (limit : Nat) :
    pollReady limit host =
      (.ok (host.queue.ready host.clock.now limit),
        { host with queue := host.queue.deliver host.clock.now limit }) := by
  rw [pollReady, HostAction.calling_eq calm]
  rfl

theorem previous_of_loads {host : Host World}
    (loads : HostAction.takeOutage .load host.outages = none) (attemptId : String) :
    previous attemptId host = (.ok (Table.get? attemptId host.store), host) := by
  simp only [previous, load, HostAction.calling, loads, Store.load]
  cases Table.get? attemptId host.store <;> rfl

theorem previous_eq {host : Host World} (calm : host.outages = []) (attemptId : String) :
    previous attemptId host = (.ok (Table.get? attemptId host.store), host) :=
  previous_of_loads (by rw [calm]; rfl) attemptId

theorem forget_eq {host : Host World} (calm : host.outages = []) (attemptId : String) :
    forget attemptId host =
      (.ok (), { host with store := Table.erase attemptId host.store }) := by
  cases found : Table.get? attemptId host.store with
  | some record =>
      have deleted : host.store.delete attemptId = .ok (Table.erase attemptId host.store) := by
        simp [Store.delete, Table.has, found]
      simp only [forget, delete, HostAction.calling_eq calm, deleted]
  | none =>
      have missing : host.store.delete attemptId = .error (.notFound attemptId) := by
        simp [Store.delete, Table.has, found]
      simp only [forget, delete, HostAction.calling_eq calm, missing]
      rw [Table.erase_eq_self (Table.get?_eq_none_iff.mp found)]

-- A lock that is not delivered is not there to be released, so the queue is the same either way.
theorem markDone_calm {host : Host World} (calm : host.outages = []) (lockId : String) :
    markDone lockId host =
      (if Table.has lockId host.queue.delivered then .ok () else .error (.notFound lockId),
        { host with queue := released host.queue lockId }) := by
  rw [markDone, HostAction.calling_eq calm, Queue.markDone]
  cases held : Table.has lockId host.queue.delivered with
  | true => rfl
  | false =>
      have same : released host.queue lockId = host.queue := by
        rw [released, Table.erase_of_not_has held]
      rw [same]
      rfl

theorem markDone_eq {host : Host World} (calm : host.outages = []) {lockId : String}
    (delivered : Table.has lockId host.queue.delivered = true) :
    markDone lockId host = (.ok (), { host with queue := released host.queue lockId }) := by
  rw [markDone_calm calm, if_pos delivered]

/-- The calls that a suspension is recorded with do not fail. -/
structure Serving (host : Host World) : Prop where
  loads : HostAction.takeOutage .load host.outages = none
  saves : HostAction.takeOutage .save host.outages = none
  enqueues : HostAction.takeOutage .enqueue host.outages = none

theorem Serving.of_calm {host : Host World} (calm : host.outages = []) : host.Serving := by
  constructor <;> rw [calm] <;> rfl

theorem recordSuspensionBy_eq (time : Timepiece) (host : Host World) (serving : host.Serving)
    (request : TaskRequest) (previous : Option StateRecord) (suspension : Suspension) :
    ∃ log, recordSuspensionBy time request previous suspension host =
      (.ok (.scheduled (Queue.lockName (host.queue.issued + 1))
          ((time.read host.clock).addSecondsBy time.add? suspension.retryIntervalSeconds)
          suspension.retryIntervalSeconds),
        { host with
          store := host.store.save
            (.following request.attemptId suspension.state (time.read host.clock) previous)
          queue := (host.queue.enqueue (request.withState suspension.state)
            ((time.read host.clock).addSecondsBy time.add? suspension.retryIntervalSeconds)).1
          log := log }) := by
  simp only [recordSuspensionBy, bind, HostAction.bind, HostAction.nowBy, save, enqueue,
    HostAction.calling, serving.saves, serving.enqueues]
  exact ⟨_, rfl⟩

theorem attemptId_restored (host : Host World) (request : TaskRequest) :
    (host.restored request).attemptId = request.attemptId :=
  request.attemptId_resuming _

-- Restoring the document takes no more than a line of the log.
theorem invokeBy_eq {host : Host World} (time : Timepiece)
    (loads : HostAction.takeOutage .load host.outages = none) (operator : Operator World)
    (task : QueuedTask) :
    ∃ log, invokeBy time operator task host =
      concludeBy time operator task.lockId (host.restored task.request)
        (Table.get? task.request.attemptId host.store) { host with log := log } := by
  simp only [invokeBy, bind, HostAction.bind, previous_of_loads loads, restored]
  cases Table.get? task.request.attemptId host.store with
  | some record => exact ⟨host.log ++ [.restored task.request.attemptId record.suspensions], rfl⟩
  | none => exact ⟨host.log, rfl⟩

theorem settleBy_recorded {host : Host World} (calm : host.outages = []) (task : QueuedTask)
    (ran : Operator.Invocation World) (log : Log) :
    ∃ status settled,
      settleBy .standard (host.restored task.request)
        (Table.get? task.request.attemptId host.store) ran.outcome
        { host with log := log, clock := ran.clock, world := ran.world } = (.ok status, settled) ∧
      settled.outages = [] ∧ settled.queue.delivered = host.queue.delivered ∧
      Recorded host task ran status
        { settled with queue := released settled.queue task.lockId } := by
  have named := attemptId_restored host task.request
  cases ended : ran.outcome with
  | error failure =>
      simp only [settleBy, bind, HostAction.bind, forget_eq, calm, HostAction.log, pure,
        HostAction.pure, named]
      exact ⟨_, _, rfl, rfl, rfl, .failed ended _⟩
  | ok outcome =>
      cases outcome with
      | completed result =>
          simp only [settleBy, bind, HostAction.bind, forget_eq, calm, HostAction.log, pure,
            HostAction.pure, named]
          exact ⟨_, _, rfl, rfl, rfl, .completed ended _⟩
      | suspended suspension =>
          obtain ⟨last, scheduled⟩ := recordSuspensionBy_eq .standard
            { host with log := log, clock := ran.clock, world := ran.world } (.of_calm calm)
            (host.restored task.request) (Table.get? task.request.attemptId host.store) suspension
          refine ⟨_, _, scheduled, calm, rfl, ?_⟩
          simp only [named, calm]
          exact .suspended ended last

/-- What an invocation comes to as a call: it fails when the lock is not delivered. -/
def reply (host : Host World) (task : QueuedTask) (status : InvocationStatus) :
    Except StoreError InvocationStatus :=
  if Table.has task.lockId host.queue.delivered then .ok status else .error (.notFound task.lockId)

-- The outcome is recorded before the lock is looked for.
theorem concludeBy_recorded (host : Host World) (calm : host.outages = [])
    (operator : Operator World) (task : QueuedTask) :
    ∃ status after,
      concludeBy .standard operator task.lockId (host.restored task.request)
        (Table.get? task.request.attemptId host.store) host = (host.reply task status, after) ∧
      Recorded host task (operator.invoke (host.restored task.request) host.clock host.world)
        status after := by
  obtain ⟨status, settled, done, quiet, delivered, recorded⟩ := settleBy_recorded calm task
    (operator.invoke (host.restored task.request) host.clock host.world)
    (host.log ++ (operator.invoke (host.restored task.request) host.clock host.world).log)
  refine ⟨status, _, ?_, recorded⟩
  simp only [concludeBy, bind, HostAction.bind, runOperator, done, markDone_calm quiet, delivered,
    reply]
  cases Table.has task.lockId host.queue.delivered <;> rfl

/-- An invocation runs the operator on the restored request and records what comes of it, also when
its lock is not delivered and the call fails. -/
theorem invoke_concluded {host : Host World} (calm : host.outages = []) (operator : Operator World)
    (task : QueuedTask) :
    ∃ status after, invoke operator task host = (host.reply task status, after) ∧
      Recorded host task (operator.invoke (host.restored task.request) host.clock host.world)
        status after := by
  obtain ⟨log, same⟩ := invokeBy_eq .standard (Serving.of_calm calm).loads operator task
  obtain ⟨status, after, ended, recorded⟩ :=
    concludeBy_recorded { host with log := log } calm operator task
  refine ⟨status, after, same.trans ended, ?_⟩
  cases recorded with
  | completed outcome log => exact .completed outcome log
  | failed outcome log => exact .failed outcome log
  | suspended outcome log => exact .suspended outcome log

/-- An invocation of a delivered task does not fail as a call. -/
theorem invoke_recorded {host : Host World} (calm : host.outages = []) (operator : Operator World)
    {task : QueuedTask} (delivered : Table.has task.lockId host.queue.delivered = true) :
    ∃ status after, invoke operator task host = (.ok status, after) ∧
      Recorded host task (operator.invoke (host.restored task.request) host.clock host.world)
        status after := by
  obtain ⟨status, after, ended, recorded⟩ := invoke_concluded calm operator task
  rw [reply, if_pos delivered] at ended
  exact ⟨status, after, ended, recorded⟩

end Host

end Resumable
