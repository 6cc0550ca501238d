import Resumable.Proofs.Host.Driven
import Resumable.Proofs.Host.Keyed

/-!
Invocations of tasks that are not delivered, such as a second one of a task that was released. The
lock is looked for last: the operator runs, its outcome is recorded as that of a delivered task, and
only then the call fails. It leaves alone the locks, the other attempts and the tasks that wait.
-/

namespace Resumable

variable {World : Type}

namespace Host

/-- The records, the pending tasks and the delivered locks are as they were. -/
structure Intact (host after : Host World) : Prop where
  store : after.store = host.store
  pending : after.queue.pending = host.queue.pending
  delivered : after.queue.delivered = host.queue.delivered

/-- What an outcome makes of the records and the pending tasks. -/
inductive Settled (host : Host World) (task : QueuedTask) (ran : Operator.Invocation World) :
    Store → List QueuedTask → Prop where
  | ended (unsuspended : ∀ suspension, ran.outcome ≠ .ok (.suspended suspension)) :
      Settled host task ran (Table.erase task.request.attemptId host.store) host.queue.pending
  | suspended {suspension : Suspension} (outcome : ran.outcome = .ok (.suspended suspension)) :
      Settled host task ran
        (host.store.save (host.recordAfter task.request.attemptId suspension.state ran.clock.now))
        (host.queue.pending ++
          [⟨Queue.lockName (host.queue.issued + 1),
            (host.restored task.request).withState suspension.state,
            ran.clock.now.addSeconds suspension.retryIntervalSeconds⟩])

variable {host after : Host World} {task : QueuedTask} {ran : Operator.Invocation World}

theorem attemptId_recordAfter (keyed : host.store.Keyed) (attemptId : String) (state : Document)
    (now : Instant) : (host.recordAfter attemptId state now).attemptId = attemptId :=
  StateRecord.attemptId_following (keyed attemptId) state now

theorem Recorded.settled {status : InvocationStatus}
    (recorded : Recorded host task ran status after) :
    Settled host task ran after.store after.queue.pending := by
  cases recorded with
  | completed outcome log => exact .ended (by simp [outcome])
  | failed outcome log => exact .ended (by simp [outcome])
  | suspended outcome log => exact .suspended outcome

theorem Recorded.delivered {status : InvocationStatus}
    (recorded : Recorded host task ran status after) :
    after.queue.delivered = Table.erase task.lockId host.queue.delivered := by
  cases recorded <;> rfl

namespace Settled

variable {store : Store} {pending : List QueuedTask}

theorem keyed (settled : Settled host task ran store pending) (keyed : host.store.Keyed) :
    store.Keyed := by
  cases settled with
  | ended unsuspended => exact keyed.erase task.request.attemptId
  | suspended outcome => exact keyed.save _

theorem get?_of_ne (settled : Settled host task ran store pending) (keyed : host.store.Keyed)
    {attemptId : String} (other : attemptId ≠ task.request.attemptId) :
    Table.get? attemptId store = Table.get? attemptId host.store := by
  cases settled with
  | ended unsuspended => exact Table.get?_erase_of_ne other host.store
  | suspended outcome =>
      rw [Store.get?_save, attemptId_recordAfter keyed, if_neg other]

-- Nothing changes just when there is nothing to delete and nothing to schedule.
theorem unchanged_iff (settled : Settled host task ran store pending) :
    store = host.store ∧ pending = host.queue.pending ↔
      Table.get? task.request.attemptId host.store = none ∧
        ∀ suspension, ran.outcome ≠ .ok (.suspended suspension) := by
  cases settled with
  | ended unsuspended =>
      constructor
      · rintro ⟨same, _⟩
        refine ⟨?_, unsuspended⟩
        rw [← same]
        exact Table.get?_erase_self ..
      · rintro ⟨absent, _⟩
        exact ⟨Table.erase_eq_self (Table.get?_eq_none_iff.mp absent), rfl⟩
  | suspended outcome =>
      constructor
      · rintro ⟨_, same⟩
        simp at same
      · rintro ⟨_, unsuspended⟩
        exact absurd outcome (unsuspended _)

end Settled

/-- An invocation fails as a call just when its lock is not delivered. -/
theorem invoke_fails_iff (calm : host.outages = []) (operator : Operator World)
    (task : QueuedTask) :
    (∃ error, (invoke operator task host).1 = .error error) ↔
      Table.has task.lockId host.queue.delivered = false := by
  obtain ⟨status, after, ended, _⟩ := invoke_concluded calm operator task
  rw [ended, reply]
  cases Table.has task.lockId host.queue.delivered <;> simp

/-- An invocation that fails as a call has recorded its outcome all the same. Its lock is not
delivered; the locks and the other attempts stay as they were, and the host is intact only when
there was nothing to delete and nothing to schedule. -/
theorem failed_invocation_is_recorded {operator : Operator World} {error : StoreError}
    (calm : host.outages = []) (failed : invoke operator task host = (.error error, after)) :
    Table.has task.lockId host.queue.delivered = false ∧ error = .notFound task.lockId ∧
      after.queue.delivered = host.queue.delivered ∧
      (host.store.Keyed → after.store.Keyed ∧ ∀ attemptId, attemptId ≠ task.request.attemptId →
        Table.get? attemptId after.store = Table.get? attemptId host.store) ∧
      Settled host task (operator.invoke (host.restored task.request) host.clock host.world)
        after.store after.queue.pending ∧
      (Intact host after ↔ Table.get? task.request.attemptId host.store = none ∧
        ∀ suspension, (operator.invoke (host.restored task.request) host.clock host.world).outcome ≠
          .ok (.suspended suspension)) := by
  have undelivered : Table.has task.lockId host.queue.delivered = false := by
    apply (invoke_fails_iff calm operator task).mp
    exact ⟨error, congrArg Prod.fst failed⟩
  obtain ⟨status, last, ended, recorded⟩ := invoke_concluded calm operator task
  rw [reply, undelivered, failed] at ended
  cases ended
  have delivered : after.queue.delivered = host.queue.delivered := by
    rw [recorded.delivered, Table.erase_of_not_has undelivered]
  have settled := recorded.settled
  refine ⟨undelivered, rfl, delivered, ?_, settled, ?_⟩
  · exact fun keyed => ⟨settled.keyed keyed, fun _ other => settled.get?_of_ne keyed other⟩
  · rw [← settled.unchanged_iff]
    exact ⟨fun intact => ⟨intact.store, intact.pending⟩, fun same => ⟨same.1, same.2, delivered⟩⟩

/-- The host once the task of the note has been invoked and released. -/
def notedHost : Host Unit := (noteRun [.invoke 0 false, .poll 1, .submit noteRequest]).1.host

def noteTask : QueuedTask := ⟨"lock-1", noteRequest, .epoch⟩

/-- Invoked again, the released task schedules the attempt a second time before the call fails. -/
theorem second_invocation_schedules :
    ∃ after, notedHost.outages = [] ∧
      invoke noteOperator noteTask notedHost = (.error (.notFound "lock-1"), after) ∧
      ¬ Intact notedHost after := by
  refine ⟨_, rfl, rfl, ?_⟩
  intro intact
  exact absurd (congrArg List.length intact.pending) (by decide)

theorem second_invocation_is_recorded :
    notedHost.outages = [] ∧
      ∃ after, invoke noteOperator noteTask notedHost = (.error (.notFound "lock-1"), after) ∧
        after.queue.delivered = [] ∧ after.store.Keyed ∧
        Settled notedHost noteTask
          (noteOperator.invoke (notedHost.restored noteRequest) notedHost.clock ())
          after.store after.queue.pending := by
  have failed : invoke noteOperator noteTask notedHost =
      (.error (.notFound "lock-1"), (invoke noteOperator noteTask notedHost).2) := by
    rfl
  have reachable : (noteRun [.invoke 0 false, .poll 1, .submit noteRequest]).1.Reachable :=
    (((HostSession.Reachable.start 0 ()).step noteOperator (.submit noteRequest)).step noteOperator
      (.poll 1)).step noteOperator (.invoke 0 false)
  have keyed : notedHost.store.Keyed := reachable.keyed
  obtain ⟨_, _, delivered, others, settled, _⟩ := failed_invocation_is_recorded rfl failed
  exact ⟨rfl, _, failed, delivered, (others keyed).1, settled⟩

end Host

end Resumable
