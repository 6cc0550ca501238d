import Resumable.Proofs.Host.Ledger

/-!
A driven host stays in step with its ledger, whatever the order of its steps: a live attempt has one
entry in the queue and, once it has suspended, one record, and both carry the document of the last
suspension. So invocations never fail, and an operator always sees that document.
-/

namespace Resumable

variable {World : Type}

structure InStep (session : HostSession World) (ledger : Ledger) : Prop where
  calm : session.host.outages = []
  delivers : session.host.queue.Delivers session.held
  entered : Entered ledger (session.host.queue.pending ++ session.held)
  filed : ∀ attemptId,
    Filed attemptId (ledger attemptId) (Table.get? attemptId session.host.store)

namespace InStep

variable {session : HostSession World} {ledger : Ledger}

theorem start (millis : Int) (world : World) :
    InStep (.start millis world) .empty where
  calm := rfl
  delivers := Queue.delivers_empty
  entered _ := rfl
  filed _ := rfl

theorem submit (inStep : InStep session ledger) (operator : Operator World) {request : TaskRequest}
    (idle : ledger request.attemptId = none) :
    InStep (session.step operator (.submit request)).2
      (Function.update ledger request.attemptId (some ⟨request, []⟩)) := by
  obtain ⟨log, submitted⟩ := Host.submit_eq inStep.calm request
  simp only [HostSession.step, submitted, HostSession.answer]
  constructor
  · exact inStep.calm
  · exact inStep.delivers.enqueue request session.host.clock.now
  · have moved := Queue.enqueue_perm session.host.queue request session.host.clock.now session.held
    exact (inStep.entered.enter ⟨request, []⟩ _ rfl idle).perm moved
  · intro attemptId
    by_cases same : attemptId = request.attemptId
    · subst same
      have none := inStep.filed request.attemptId
      rw [idle] at none
      rw [Function.update_self]
      exact none
    · rw [Function.update_of_ne same]
      exact inStep.filed attemptId

theorem poll (inStep : InStep session ledger) (operator : Operator World) (limit : Nat) :
    InStep (session.step operator (.poll limit)).2 ledger := by
  simp only [HostSession.step, Host.pollReady_eq inStep.calm]
  constructor
  · exact inStep.calm
  · exact inStep.delivers.poll session.host.clock.now limit
  · exact inStep.entered.perm
      (Queue.deliver_perm session.host.queue session.host.clock.now limit session.held)
  · exact inStep.filed

-- An invocation of a held task runs on the current request of its attempt.
theorem restored (inStep : InStep session ledger) {index : Nat} {task : QueuedTask}
    (found : session.held[index]? = some task) :
    ∃ life, ledger task.request.attemptId = some life ∧
      session.host.restored task.request = life.current := by
  obtain ⟨life, live, request, _⟩ :=
    (inStep.entered.perm (Queue.take_perm session.host.queue.pending found)).take
  refine ⟨life, live, ?_⟩
  have filed := inStep.filed task.request.attemptId
  rw [live] at filed
  have state := filed.state
  rw [Host.restored]
  cases record : Table.get? task.request.attemptId session.host.store with
  | none => exact request
  | some record =>
      rw [record, Option.map_some] at state
      rw [request, Life.current, Life.document, ← state]
      rfl

theorem closed (inStep : InStep session ledger) {index : Nat} {task : QueuedTask}
    (found : session.held[index]? = some task) (ran : Operator.Invocation World) (log : Log) :
    InStep ⟨session.host.closed task ran log, session.held.eraseIdx index⟩
      (Function.update ledger task.request.attemptId none) := by
  obtain ⟨_, _, _, rest⟩ :=
    (inStep.entered.perm (Queue.take_perm session.host.queue.pending found)).take
  constructor
  · rfl
  · exact inStep.delivers.release found
  · exact rest
  · intro attemptId
    rw [Host.closed]
    by_cases same : attemptId = task.request.attemptId
    · subst same
      rw [Function.update_self, Table.get?_erase_self]
      rfl
    · rw [Function.update_of_ne same, Table.get?_erase_of_ne same]
      exact inStep.filed attemptId

-- An attempt that is suspended has a new task and a record with its document.
theorem parked (inStep : InStep session ledger) {index : Nat} {task : QueuedTask} {life : Life}
    (found : session.held[index]? = some task)
    (live : ledger task.request.attemptId = some life)
    (current : session.host.restored task.request = life.current)
    (ran : Operator.Invocation World) (suspension : Suspension) (log : Log) :
    InStep ⟨session.host.parked task ran suspension log, session.held.eraseIdx index⟩
      (Function.update ledger task.request.attemptId
        (some { life with suspensions := suspension.state :: life.suspensions })) := by
  obtain ⟨_, _, _, rest⟩ :=
    (inStep.entered.perm (Queue.take_perm session.host.queue.pending found)).take
  have named : life.submitted.attemptId = task.request.attemptId := by
    rw [← life.attemptId_current, ← current, Host.attemptId_restored]
  have filed := inStep.filed task.request.attemptId
  rw [live] at filed
  constructor
  · rfl
  · exact (inStep.delivers.enqueue _ _).release found
  · rw [Host.parked, current]
    have moved := Queue.enqueue_perm session.host.queue (life.current.withState suspension.state)
      (ran.clock.now.addSeconds suspension.retryIntervalSeconds) (session.held.eraseIdx index)
    -- Between the old task and the new one the attempt has none, as if it were not live.
    have idle : Function.update ledger task.request.attemptId none life.submitted.attemptId =
        none := by
      rw [named, Function.update_self]
    have entered := (rest.enter { life with suspensions := suspension.state :: life.suspensions }
      ⟨_, life.current.withState suspension.state, _⟩ rfl idle).perm moved
    change Entered (Function.update (Function.update ledger _ none) life.submitted.attemptId _) _
      at entered
    rwa [named, Function.update_idem] at entered
  · intro attemptId
    rw [Host.parked, filed.recordAfter, Store.get?_save]
    by_cases same : attemptId = task.request.attemptId
    · subst same
      rw [if_pos rfl, Function.update_self]
      exact ⟨ran.clock.now, rfl⟩
    · rw [if_neg same, Function.update_of_ne same]
      exact inStep.filed attemptId

theorem invoke (inStep : InStep session ledger) (operator : Operator World) (index : Nat) :
    InStep (session.step operator (.invoke index false)).2
      (ledger.after operator session (.invoke index false)) := by
  cases found : session.held[index]? with
  | none => simpa only [HostSession.step, Ledger.after, found] using inStep
  | some task =>
      obtain ⟨life, live, current⟩ := inStep.restored found
      obtain ⟨status, after, ended, recorded⟩ := Host.invoke_recorded inStep.calm operator
        (inStep.delivers.has (List.mem_of_getElem? found))
      rw [current] at recorded
      simp only [HostSession.step, found, ended, HostSession.answer, Ledger.after, live,
        Option.bind_some]
      cases recorded with
      | completed outcome log =>
          rw [outcome]
          exact inStep.closed found _ log
      | failed outcome log =>
          rw [outcome]
          exact inStep.closed found _ log
      | suspended outcome log =>
          rw [outcome]
          exact inStep.parked found live current _ _ log

theorem step (inStep : InStep session ledger) (operator : Operator World) {step : HostStep}
    (admitted : ledger.Admits step) :
    InStep (session.step operator step).2 (ledger.after operator session step) := by
  cases step with
  | submit request => exact inStep.submit operator admitted
  | poll limit => exact inStep.poll operator limit
  | invoke index keep =>
      obtain rfl : keep = false := admitted
      exact inStep.invoke operator index
  | advance span => exact ⟨inStep.calm, inStep.delivers, inStep.entered, inStep.filed⟩
  | setClock millis => exact ⟨inStep.calm, inStep.delivers, inStep.entered, inStep.filed⟩
  | _ => exact admitted.elim

end InStep

/-- The tasks of an attempt in the queue, pending or delivered. -/
def Host.entries (host : Host World) (attemptId : String) : List QueuedTask :=
  (host.queue.pending ++ host.queue.delivered.map Prod.snd).filter fun task =>
    task.request.attemptId = attemptId

namespace InStep

variable {session : HostSession World} {ledger : Ledger}

theorem entries (inStep : InStep session ledger) (attemptId : String) :
    (session.host.entries attemptId).map QueuedTask.request =
      ((ledger attemptId).map Life.current).toList := by
  have tasks : (session.host.queue.delivered.map Prod.snd).Perm session.held := by
    have values : (session.held.map Queue.entry).map Prod.snd = session.held := by
      rw [List.map_map]
      exact List.map_id session.held
    rw [← values]
    exact inStep.delivers.delivered.map Prod.snd
  have requests := inStep.entered.perm (tasks.append_left session.host.queue.pending) attemptId
  rw [← requests, requestsOf, List.filter_map]
  rfl

theorem record_iff (inStep : InStep session ledger) (attemptId : String) :
    (∃ record, Table.get? attemptId session.host.store = some record) ↔
      ∃ life, ledger attemptId = some life ∧ life.suspensions ≠ [] := by
  have filed := inStep.filed attemptId
  cases live : ledger attemptId with
  | none =>
      rw [live] at filed
      have absent : Table.get? attemptId session.host.store = none := filed
      simp [absent]
  | some life =>
      rw [live] at filed
      have state := filed.state
      constructor
      · rintro ⟨record, found⟩
        refine ⟨life, rfl, ?_⟩
        rintro none
        simp [found, none] at state
      · rintro ⟨_, same, suspended⟩
        cases same
        cases found : Table.get? attemptId session.host.store with
        | some record => exact ⟨record, rfl⟩
        | none =>
            rw [found, Option.map_none] at state
            exact absurd (List.head?_eq_none_iff.mp state.symm) suspended

theorem record_state (inStep : InStep session ledger) {attemptId : String} {record : StateRecord}
    (found : Table.get? attemptId session.host.store = some record) :
    ∃ life entry, ledger attemptId = some life ∧ session.host.entries attemptId = [entry] ∧
      record.state = entry.request.lastStateParams ∧
      life.suspensions.head? = some record.state := by
  obtain ⟨life, live, _⟩ := (inStep.record_iff attemptId).mp ⟨record, found⟩
  have state := inStep.filed attemptId
  rw [live, found] at state
  have last := state.state
  rw [Option.map_some] at last
  have requests := inStep.entries attemptId
  rw [live] at requests
  obtain ⟨entry, alone, request⟩ := List.map_eq_singleton_iff.mp requests
  refine ⟨life, entry, live, alone, ?_, last.symm⟩
  rw [request, Life.current, Life.document, ← last]
  rfl

theorem invoked (inStep : InStep session ledger) (operator : Operator World) {index : Nat}
    {task : QueuedTask} (found : session.held[index]? = some task) :
    ∃ life status after, ledger task.request.attemptId = some life ∧
      session.step operator (.invoke index false) = (.status status, after) ∧
      session.host.Recorded task
        (operator.invoke life.current session.host.clock session.host.world) status after.host := by
  obtain ⟨life, live, current⟩ := inStep.restored found
  obtain ⟨status, after, ended, recorded⟩ := Host.invoke_recorded inStep.calm operator
    (inStep.delivers.has (List.mem_of_getElem? found))
  rw [current] at recorded
  refine ⟨life, status, ⟨after, session.held.eraseIdx index⟩, live, ?_, recorded⟩
  simp [HostSession.step, found, ended, HostSession.answer]

end InStep

theorem Driven.inStep {session : HostSession World} {ledger : Ledger}
    (driven : Driven session ledger) : InStep session ledger := by
  induction driven with
  | start millis world => exact .start millis world
  | step driven operator step admitted ih => exact ih.step operator admitted

/-- In each session of a driven host, the held tasks are the delivered ones; a live attempt has one
entry in the queue and the others have none; an attempt has a record just when it is live and has
suspended, with the document of its entry and of its last suspension; and to invoke a held task
records what its operator makes of the current request of the attempt. -/
theorem driven_host_agrees_with_ledger {session : HostSession World} {ledger : Ledger}
    (driven : Driven session ledger) :
    session.host.queue.delivered.Perm
        (session.held.map fun task => (task.lockId, task)) ∧
      (∀ attemptId, (session.host.entries attemptId).map QueuedTask.request =
        ((ledger attemptId).map Life.current).toList) ∧
      (∀ attemptId, (∃ record, Table.get? attemptId session.host.store = some record) ↔
        ∃ life, ledger attemptId = some life ∧ life.suspensions ≠ []) ∧
      (∀ attemptId record, Table.get? attemptId session.host.store = some record →
        ∃ life entry, ledger attemptId = some life ∧ session.host.entries attemptId = [entry] ∧
          record.state = entry.request.lastStateParams ∧
          life.suspensions.head? = some record.state) ∧
      ∀ operator index task, session.held[index]? = some task →
        ∃ life status after, ledger task.request.attemptId = some life ∧
          session.step operator (.invoke index false) = (.status status, after) ∧
          session.host.Recorded task
            (operator.invoke life.current session.host.clock session.host.world) status
            after.host := by
  have inStep := driven.inStep
  refine ⟨inStep.delivers.delivered, inStep.entries, inStep.record_iff, ?_, ?_⟩
  · intro attemptId record found
    exact inStep.record_state found
  · intro operator index task found
    exact inStep.invoked operator found

/-- Notes what it has seen, and waits. -/
def noteOperator : Operator Unit where
  run _ _ := do
    Action.set .bool "seen" true
    Action.suspend 5
  resetKeys := []
  retryByDefault := false

def noteRequest : TaskRequest := ⟨"attempt-1", "+note", .empty, []⟩

def noteRun : List HostStep → HostSession Unit × Ledger
  | [] => (.start 0 (), .empty)
  | step :: earlier =>
      let (session, ledger) := noteRun earlier
      ((session.step noteOperator step).2, ledger.after noteOperator session step)

/-- The steps, the last one first: the request is submitted, polled and invoked, and polled again
when it is ready. -/
def noteSteps : List HostStep :=
  [.poll 1, .advance (.ofSeconds 5), .invoke 0 false, .poll 1, .submit noteRequest]

theorem noted_attempt_is_in_step :
    ((noteRun noteSteps).1.host.entries "attempt-1").map QueuedTask.request =
        [noteRequest.withState [("seen", .bool true)]] ∧
      (∃ record, Table.get? "attempt-1" (noteRun noteSteps).1.host.store = some record) ∧
      ∃ status after, (noteRun noteSteps).1.step noteOperator (.invoke 0 false) =
        (.status status, after) := by
  have submitted := (Driven.start 0 ()).step noteOperator (.submit noteRequest) rfl
  have polled := submitted.step noteOperator (.poll 1) trivial
  have suspended := polled.step noteOperator (.invoke 0 false) rfl
  have waited := suspended.step noteOperator (.advance (.ofSeconds 5)) trivial
  have driven : Driven (noteRun noteSteps).1 (noteRun noteSteps).2 :=
    waited.step noteOperator (.poll 1) trivial
  have live : (noteRun noteSteps).2 "attempt-1" =
      some ⟨noteRequest, [[("seen", .bool true)]]⟩ := by
    rfl
  have found : (noteRun noteSteps).1.held[0]? =
      some ⟨"lock-2", noteRequest.withState [("seen", .bool true)], ⟨5, 0, by decide⟩⟩ := by
    rfl
  obtain ⟨_, entries, records, _, invoked⟩ := driven_host_agrees_with_ledger driven
  obtain ⟨_, status, after, _, answered, _⟩ := invoked noteOperator 0 _ found
  refine ⟨?_, ?_, status, after, answered⟩
  · rw [entries, live]
    rfl
  · exact (records "attempt-1").mpr ⟨_, live, by simp⟩

end Resumable
