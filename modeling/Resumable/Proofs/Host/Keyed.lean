import Resumable.Host.Session
import Resumable.Proofs.Host.Invocation

/-!
Records are under the ids of their attempts. So they are in the empty store that a session starts
with, and no call keeps that from being so, whether it succeeds or fails; hence the store of every
host that steps of a session lead to is in order.
-/

namespace Resumable

variable {World α β : Type}

namespace Store

/-- Records are under the ids of their attempts. -/
def Keyed (store : Store) : Prop :=
  ∀ attemptId record, Table.get? attemptId store = some record → record.attemptId = attemptId

theorem keyed_empty : Keyed [] := by
  intro attemptId record found
  cases found

theorem Keyed.save {store : Store} (keyed : store.Keyed) (record : StateRecord) :
    (store.save record).Keyed := by
  intro attemptId other found
  rw [Store.get?_save] at found
  split at found
  · rename_i same
    cases found
    exact same.symm
  · exact keyed attemptId other found

theorem Keyed.erase {store : Store} (keyed : store.Keyed) (attemptId : String) :
    Keyed (Table.erase attemptId store) := by
  intro other record found
  by_cases same : other = attemptId
  · subst same
    rw [Table.get?_erase_self] at found
    cases found
  · rw [Table.get?_erase_of_ne same] at found
    exact keyed other record found

theorem Keyed.delete {store after : Store} (keyed : store.Keyed) {attemptId : String}
    (deleted : store.delete attemptId = .ok after) : after.Keyed := by
  rw [Store.delete] at deleted
  split at deleted
  · cases deleted
    exact keyed.erase attemptId
  · cases deleted

end Store

/-- The action leaves a keyed store keyed, whatever it comes to. -/
def HostAction.KeepsKeyed (action : HostAction World α) : Prop :=
  ∀ host, host.store.Keyed → (action host).2.store.Keyed

namespace HostAction.KeepsKeyed

variable {action : HostAction World α}

theorem of_same (same : ∀ host, (action host).2.store = host.store) : action.KeepsKeyed := by
  intro host keyed
  rw [same host]
  exact keyed

theorem pure (value : α) : KeepsKeyed (HostAction.pure value : HostAction World α) :=
  .of_same fun _ => rfl

theorem log (event : Event) : KeepsKeyed (HostAction.log event : HostAction World Unit) :=
  .of_same fun _ => rfl

theorem bind {next : α → HostAction World β} (first : action.KeepsKeyed)
    (rest : ∀ value, (next value).KeepsKeyed) : (HostAction.bind action next).KeepsKeyed := by
  intro host keyed
  have middle := first host keyed
  rw [HostAction.bind]
  cases ran : action host with
  | mk result after =>
      rw [ran] at middle
      cases result with
      | ok value => exact rest value after middle
      | error error => exact middle

-- A call that is bound to fail uses up its outage and does nothing else.
theorem calling (call : Call) (keeps : action.KeepsKeyed) :
    (HostAction.calling call action).KeepsKeyed := by
  intro host keyed
  rw [HostAction.calling]
  cases takeOutage call host.outages with
  | none => exact keeps host keyed
  | some met => exact keyed

end HostAction.KeepsKeyed

namespace Host

open HostAction (KeepsKeyed)

theorem keyed_enqueue (request : TaskRequest) (readyAt : Instant) :
    KeepsKeyed (enqueue request readyAt : HostAction World String) :=
  .calling _ (.of_same fun _ => rfl)

theorem keyed_submit (request : TaskRequest) :
    KeepsKeyed (submit request : HostAction World String) := by
  have clock : KeepsKeyed (HostAction.now : HostAction World Instant) := .of_same fun _ => rfl
  exact clock.bind fun now => (keyed_enqueue request now).bind fun lockId =>
    (KeepsKeyed.log _).bind fun _ => .pure lockId

theorem keyed_pollReady (limit : Nat) :
    KeepsKeyed (pollReady limit : HostAction World (List QueuedTask)) :=
  .calling _ (.of_same fun _ => rfl)

theorem keyed_previous (attemptId : String) :
    KeepsKeyed (previous attemptId : HostAction World (Option StateRecord)) := by
  have loads : KeepsKeyed (load attemptId : HostAction World StateRecord) :=
    .calling _ (.of_same fun _ => rfl)
  intro host keyed
  have after := loads host keyed
  rw [previous]
  split
  all_goals
    rename_i ran
    rw [ran] at after
    exact after

theorem keyed_save (record : StateRecord) :
    KeepsKeyed (save record : HostAction World Unit) :=
  .calling _ fun _ keyed => keyed.save record

theorem keyed_forget (attemptId : String) :
    KeepsKeyed (forget attemptId : HostAction World Unit) := by
  have deletes : KeepsKeyed (delete attemptId : HostAction World Unit) := by
    apply KeepsKeyed.calling
    intro host keyed
    cases deleted : host.store.delete attemptId with
    | ok store =>
        simp only [deleted]
        exact keyed.delete deleted
    | error error =>
        simp only [deleted]
        exact keyed
  intro host keyed
  have after := deletes host keyed
  rw [forget]
  split
  · rename_i ran
    rw [ran] at after
    exact after
  · exact after

theorem keyed_markDone (lockId : String) :
    KeepsKeyed (markDone lockId : HostAction World Unit) := by
  apply KeepsKeyed.calling
  apply KeepsKeyed.of_same
  intro host
  split <;> rfl

theorem keyed_recordSuspensionBy (time : Timepiece) (request : TaskRequest)
    (found : Option StateRecord) (suspension : Suspension) :
    KeepsKeyed
      (recordSuspensionBy time request found suspension : HostAction World InvocationStatus) := by
  have clock : KeepsKeyed (HostAction.nowBy time.read : HostAction World Instant) :=
    .of_same fun _ => rfl
  exact clock.bind fun now => (keyed_save _).bind fun _ => (keyed_enqueue _ _).bind fun lockId =>
    (KeepsKeyed.log _).bind fun _ => .pure _

theorem keyed_settleBy (time : Timepiece) (request : TaskRequest) (found : Option StateRecord)
    (outcome : Except TaskFailure (Outcome TaskResult)) :
    KeepsKeyed (settleBy time request found outcome : HostAction World InvocationStatus) := by
  rcases outcome with failure | result | suspension
  · exact (keyed_forget request.attemptId).bind fun _ => (KeepsKeyed.log _).bind fun _ => .pure _
  · exact (keyed_forget request.attemptId).bind fun _ => (KeepsKeyed.log _).bind fun _ => .pure _
  · exact keyed_recordSuspensionBy time request found suspension

/-- An invocation leaves a keyed store keyed, also when one of its calls fails. -/
theorem keyed_invokeBy (time : Timepiece) (operator : Operator World) (task : QueuedTask) :
    (invokeBy time operator task).KeepsKeyed := by
  have runs : ∀ request, (runOperator operator request).KeepsKeyed :=
    fun _ => .of_same fun _ => rfl
  have restores : ∀ found, KeepsKeyed
      (logRestored task.request.attemptId found : HostAction World Unit) := by
    intro found
    cases found with
    | none => exact .pure ()
    | some record => exact .log _
  exact (keyed_previous _).bind fun found => (restores found).bind fun _ =>
    (runs _).bind fun outcome => (keyed_settleBy time _ found outcome).bind fun status =>
      (keyed_markDone task.lockId).bind fun _ => .pure status

end Host

namespace HostSession

theorem host_answer (session : HostSession World) (toAnswer : α → HostAnswer)
    (result : Except StoreError α × Host World) :
    (session.answer toAnswer result).2.host = result.2 := by
  rcases result with ⟨_ | _, host⟩ <;> rfl

theorem keyed_drive (operator : Operator World) (most : Nat) {host : Host World}
    (keyed : host.store.Keyed) : (drive operator most host).2.store.Keyed := by
  induction most generalizing host with
  | zero => exact keyed
  | succ most ih =>
      have polled := Host.keyed_pollReady 1 host keyed
      rcases ran : Host.pollReady 1 host with ⟨_ | _ | ⟨task, others⟩, waiting⟩
      · simpa only [drive, ran] using polled
      · simpa only [drive, ran] using polled
      · rw [ran] at polled
        have invoked : (Host.invoke operator task waiting).2.store.Keyed :=
          Host.keyed_invokeBy .standard operator task waiting polled
        rcases done : Host.invoke operator task waiting with ⟨error | status, after⟩
        · simpa only [drive, ran, done] using invoked
        · rw [done] at invoked
          simp only [drive, ran, done]
          apply ih
          -- The clock alone may be moved on.
          cases status <;> exact invoked

/-- No step makes a keyed store other than keyed. -/
theorem keyed_step (operator : Operator World) {session : HostSession World}
    (keyed : session.host.store.Keyed) (step : HostStep) :
    (session.step operator step).2.host.store.Keyed := by
  cases step with
  | submit request =>
      rw [step, host_answer]
      exact Host.keyed_submit request session.host keyed
  | poll limit =>
      have polled := Host.keyed_pollReady limit session.host keyed
      rw [step]
      rcases ran : Host.pollReady limit session.host with ⟨error | tasks, host⟩ <;>
      · rw [ran] at polled
        exact polled
  | invoke index keep =>
      rw [step]
      cases session.held[index]? with
      | none => exact keyed
      | some task =>
          simp only [host_answer]
          exact Host.keyed_invokeBy .standard operator task session.host keyed
  | drive most => exact keyed_drive operator most keyed
  | save record => exact keyed.save record
  | load attemptId =>
      rw [step]
      cases session.host.store.load attemptId <;> exact keyed
  | delete attemptId =>
      rw [step]
      cases deleted : session.host.store.delete attemptId with
      | ok store => exact keyed.delete deleted
      | error error => exact keyed
  | advanceRecord attemptId state now =>
      rw [step]
      cases session.host.store.load attemptId with
      | ok record => exact keyed.save _
      | error error => exact keyed
  | markDone lockId =>
      rw [step]
      cases session.host.queue.markDone lockId <;> exact keyed
  | _ => exact keyed

/-- The sessions that steps lead to, each made with an operator of its own. -/
inductive Reachable : HostSession World → Prop where
  | start (millis : Int) (world : World) : Reachable (.start millis world)
  | step {session : HostSession World} (reachable : Reachable session)
      (operator : Operator World) (step : HostStep) : Reachable (session.step operator step).2

theorem Reachable.keyed {session : HostSession World} (reachable : session.Reachable) :
    session.host.store.Keyed := by
  induction reachable with
  | start millis world => exact Store.keyed_empty
  | step reachable operator step ih => exact keyed_step operator ih step

end HostSession

end Resumable
