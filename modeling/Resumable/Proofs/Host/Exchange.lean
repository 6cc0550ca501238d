import Mathlib.Logic.Equiv.Basic
import Resumable.Proofs.Host.Refusal

/-!
Invocations of different attempts can change places. What an invocation does depends on its own
record and on the clock, and it touches its own record, its own lock and the end of the queue. So
two of them leave the same host in either order, but for the order of the two tasks that they may
enqueue, and for the numbers of the locks that these are given.
-/

namespace Resumable

variable {World : Type}

/-- What an invocation comes to depends on the request and the clock, not on the world. -/
def Operator.Repeatable (operator : Operator World) : Prop :=
  ∀ request clock world other,
    (operator.invoke request clock world).outcome =
        (operator.invoke request clock other).outcome ∧
      (operator.invoke request clock world).clock = (operator.invoke request clock other).clock

def QueuedTask.relock (rename : String → String) (task : QueuedTask) : QueuedTask :=
  { task with lockId := rename task.lockId }

def InvocationStatus.relock (rename : String → String) : InvocationStatus → InvocationStatus
  | .scheduled lockId readyAt interval => .scheduled (rename lockId) readyAt interval
  | ended => ended

/-- What an invocation does to its attempt, but for the lock under which it is enqueued again. -/
inductive Effect where
  | ended (result : Except ErrorDocument TaskResult)
  | parked (record : StateRecord) (request : TaskRequest) (readyAt : Instant) (interval : Nat)

namespace Effect

def record? : Effect → Option StateRecord
  | .ended _ => none
  | .parked record _ _ _ => some record

def locks : Effect → Nat
  | .ended _ => 0
  | .parked _ _ _ _ => 1

/-- The tasks that are enqueued, when the next lock to be issued is this one. -/
def tasks (lockId : String) : Effect → List QueuedTask
  | .ended _ => []
  | .parked _ request readyAt _ => [⟨lockId, request, readyAt⟩]

def status (lockId : String) : Effect → InvocationStatus
  | .ended (.ok result) => .completed result
  | .ended (.error document) => .failed document
  | .parked _ _ readyAt interval => .scheduled lockId readyAt interval

theorem status_relock (rename : String → String) (lockId : String) (effect : Effect) :
    (effect.status lockId).relock rename = effect.status (rename lockId) := by
  cases effect with
  | ended result => cases result <;> rfl
  | parked record request readyAt interval => rfl

theorem tasks_relock (rename : String → String) (lockId : String) (effect : Effect) :
    (effect.tasks lockId).map (QueuedTask.relock rename) = effect.tasks (rename lockId) := by
  cases effect <;> rfl

theorem locks_cases (effect : Effect) : effect.locks = 0 ∨ effect.locks = 1 := by
  cases effect with
  | ended result => exact .inl rfl
  | parked record request readyAt interval => exact .inr rfl

/-- The effect does not tell one lock from the other. -/
structure SameAt (effect : Effect) (lockId other : String) : Prop where
  status : effect.status lockId = effect.status other
  tasks : effect.tasks lockId = effect.tasks other

theorem SameAt.refl (effect : Effect) (lockId : String) : effect.SameAt lockId lockId := ⟨rfl, rfl⟩

-- An effect that issues no lock does not depend on which one is next.
theorem issues_or_same (effect : Effect) :
    effect.locks = 1 ∨ ∀ lockId other, effect.SameAt lockId other := by
  cases effect with
  | ended result => cases result <;> exact .inr fun _ _ => ⟨rfl, rfl⟩
  | parked record request readyAt interval => exact .inl rfl

end Effect

namespace Host

variable {host middle after : Host World} {task : QueuedTask}

def effect (host : Host World) (task : QueuedTask) (ran : Operator.Invocation World) : Effect :=
  match ran.outcome with
  | .ok (.completed result) => .ended (.ok result)
  | .error failure => .ended (.error failure.document)
  | .ok (.suspended suspension) =>
      .parked (host.recordAfter task.request.attemptId suspension.state ran.clock.now)
        ((host.restored task.request).withState suspension.state)
        (ran.clock.now.addSeconds suspension.retryIntervalSeconds)
        suspension.retryIntervalSeconds

/-- Of the host, an effect depends on the record of its own attempt only. -/
theorem effect_congr {other : Host World} {ran again : Operator.Invocation World}
    (record : Table.get? task.request.attemptId host.store =
      Table.get? task.request.attemptId other.store)
    (outcome : ran.outcome = again.outcome) (clock : ran.clock = again.clock) :
    host.effect task ran = other.effect task again := by
  simp only [effect, recordAfter, restored, record, outcome, clock]

structure Applied (host : Host World) (task : QueuedTask) (effect : Effect) (after : Host World) :
    Prop where
  calm : after.outages = []
  keyed : after.store.Keyed
  record : Table.get? task.request.attemptId after.store = effect.record?
  records : ∀ attemptId, attemptId ≠ task.request.attemptId →
    Table.get? attemptId after.store = Table.get? attemptId host.store
  issued : after.queue.issued = host.queue.issued + effect.locks
  pending : after.queue.pending =
    host.queue.pending ++ effect.tasks (Queue.lockName (host.queue.issued + 1))
  delivered : after.queue.delivered = Table.erase task.lockId host.queue.delivered

theorem Applied.of_clock {clock : Clock} {effect : Effect}
    (applied : Applied { host with clock := clock } task effect after) :
    Applied host task effect after where
  calm := applied.calm
  keyed := applied.keyed
  record := applied.record
  records := applied.records
  issued := applied.issued
  pending := applied.pending
  delivered := applied.delivered

theorem Recorded.applied {ran : Operator.Invocation World} {status : InvocationStatus}
    (recorded : Recorded host task ran status after) (keyed : host.store.Keyed) :
    status = (host.effect task ran).status (Queue.lockName (host.queue.issued + 1)) ∧
      Applied host task (host.effect task ran) after := by
  have settled := recorded.settled
  have records : ∀ attemptId, attemptId ≠ task.request.attemptId →
      Table.get? attemptId after.store = Table.get? attemptId host.store :=
    fun _ other => settled.get?_of_ne keyed other
  cases recorded with
  | completed outcome log =>
      rw [effect, outcome]
      exact ⟨rfl, rfl, settled.keyed keyed, Table.get?_erase_self .., records, rfl,
        (List.append_nil _).symm, rfl⟩
  | failed outcome log =>
      rw [effect, outcome]
      exact ⟨rfl, rfl, settled.keyed keyed, Table.get?_erase_self .., records, rfl,
        (List.append_nil _).symm, rfl⟩
  | @suspended suspension outcome log =>
      rw [effect, outcome]
      refine ⟨rfl, rfl, settled.keyed keyed, ?_, records, rfl, rfl, rfl⟩
      rw [parked, Store.get?_save, attemptId_recordAfter keyed, if_pos rfl]
      rfl

/-- An invocation leaves the records and the queue entries of all other attempts alone. -/
structure Spares (host : Host World) (task : QueuedTask) (after : Host World) : Prop where
  records : ∀ attemptId, attemptId ≠ task.request.attemptId →
    Table.get? attemptId after.store = Table.get? attemptId host.store
  pending : ∃ new, after.queue.pending = host.queue.pending ++ new ∧
    ∀ other ∈ new, other.request.attemptId = task.request.attemptId
  delivered : ∀ lockId, lockId ≠ task.lockId →
    Table.get? lockId after.queue.delivered = Table.get? lockId host.queue.delivered

theorem attemptId_of_mem_tasks {ran : Operator.Invocation World} {lockId : String}
    {other : QueuedTask} (member : other ∈ (host.effect task ran).tasks lockId) :
    other.request.attemptId = task.request.attemptId := by
  rw [effect] at member
  split at member
  · cases member
  · cases member
  · rw [List.mem_singleton.mp member]
    exact attemptId_restored host task.request

theorem Applied.spares {ran : Operator.Invocation World}
    (applied : Applied host task (host.effect task ran) after) : host.Spares task after where
  records := applied.records
  pending := ⟨_, applied.pending, fun _ member => attemptId_of_mem_tasks member⟩
  delivered lockId other := by
    rw [applied.delivered, Table.get?_erase_of_ne other]

/-- Two invocations in turn, the second at the clock reading of the first. -/
def InTurn (host : Host World) (firstOperator : Operator World) (first : QueuedTask)
    (secondOperator : Operator World) (second : QueuedTask)
    (earlier later : InvocationStatus) (middle after : Host World) : Prop :=
  invoke firstOperator first host = (.ok earlier, middle) ∧
    invoke secondOperator second { middle with clock := host.clock } = (.ok later, after)

/-- Two hosts that came from one are equal up to the order of the tasks that are new and the names
of their locks. -/
structure Exchanged (host after other : Host World) (rename : Equiv.Perm String) : Prop where
  records : ∀ attemptId, Table.get? attemptId other.store = Table.get? attemptId after.store
  delivered : other.queue.delivered = after.queue.delivered
  issued : other.queue.issued = after.queue.issued
  pending : ∃ new turned, after.queue.pending = host.queue.pending ++ new ∧
    other.queue.pending = host.queue.pending ++ turned ∧
      turned.Perm (new.map (QueuedTask.relock rename))
  renamed : ∀ lockId, rename lockId ≠ lockId → ∃ number, host.queue.issued < number ∧
    number ≤ after.queue.issued ∧ lockId = Queue.lockName number

def effectOf (host : Host World) (operator : Operator World) (task : QueuedTask) : Effect :=
  host.effect task (operator.invoke (host.restored task.request) host.clock host.world)

theorem invoke_applied (operator : Operator World) (calm : host.outages = [])
    (keyed : host.store.Keyed) (held : Table.has task.lockId host.queue.delivered = true) :
    ∃ after, invoke operator task host =
        (.ok ((host.effectOf operator task).status (Queue.lockName (host.queue.issued + 1))),
          after) ∧
      Applied host task (host.effectOf operator task) after := by
  obtain ⟨status, after, ended, recorded⟩ := invoke_recorded calm operator held
  obtain ⟨rfl, applied⟩ := recorded.applied keyed
  exact ⟨after, ended, applied⟩

theorem effectOf_congr {operator : Operator World} (repeatable : operator.Repeatable)
    {other : Host World} (record : Table.get? task.request.attemptId host.store =
      Table.get? task.request.attemptId other.store) (clock : host.clock = other.clock) :
    host.effectOf operator task = other.effectOf operator task := by
  have same : host.restored task.request = other.restored task.request := by
    simp only [restored, record]
  have ran := repeatable (other.restored task.request) other.clock host.world other.world
  rw [effectOf, effectOf, same, clock]
  exact effect_congr record ran.1 ran.2

/-- Two delivered tasks of different attempts, invoked in turn: each effect is the one that the task
has by itself. -/
theorem invoked_in_turn (firstOperator : Operator World) {secondOperator : Operator World}
    {first second : QueuedTask} (calm : host.outages = []) (keyed : host.store.Keyed)
    (repeatable : secondOperator.Repeatable)
    (firstHeld : Table.get? first.lockId host.queue.delivered = some first)
    (secondHeld : Table.get? second.lockId host.queue.delivered = some second)
    (locks : second.lockId ≠ first.lockId)
    (attempts : second.request.attemptId ≠ first.request.attemptId) :
    ∃ middle after, InTurn host firstOperator first secondOperator second
        ((host.effectOf firstOperator first).status (Queue.lockName (host.queue.issued + 1)))
        ((host.effectOf secondOperator second).status (Queue.lockName
          (host.queue.issued + (host.effectOf firstOperator first).locks + 1))) middle after ∧
      Applied host first (host.effectOf firstOperator first) middle ∧
      Applied middle second (host.effectOf secondOperator second) after ∧
      host.Spares first middle ∧ middle.Spares second after := by
  have firstHas : Table.has first.lockId host.queue.delivered = true := by
    rw [Table.has, firstHeld]
    rfl
  obtain ⟨middle, began, opened⟩ := invoke_applied firstOperator calm keyed firstHas
  have secondHas : Table.has second.lockId middle.queue.delivered = true := by
    rw [Table.has, opened.delivered, Table.get?_erase_of_ne locks, secondHeld]
    rfl
  have quiet : Host.outages { middle with clock := host.clock } = [] := opened.calm
  obtain ⟨after, ended, closed⟩ := invoke_applied secondOperator quiet opened.keyed secondHas
  have spared := closed.spares
  have same : Host.effectOf { middle with clock := host.clock } secondOperator second =
      host.effectOf secondOperator second :=
    effectOf_congr repeatable (opened.records _ attempts) rfl
  rw [same, opened.issued] at ended
  rw [same] at closed
  exact ⟨middle, after, ⟨began, ended⟩, opened, closed.of_clock, opened.spares,
    ⟨spared.records, spared.pending, spared.delivered⟩⟩

/-- Where both of two effects issue a lock, these change places. -/
def lockSwap (issued : Nat) (left right : Effect) : Equiv.Perm String :=
  if left.locks = 1 ∧ right.locks = 1 then
    .swap (Queue.lockName (issued + 1)) (Queue.lockName (issued + 2))
  else .refl String

theorem lockSwap_left (issued : Nat) (left right : Effect) :
    left.SameAt (lockSwap issued left right (Queue.lockName (issued + 1)))
      (Queue.lockName (issued + right.locks + 1)) := by
  rcases left.issues_or_same with one | same
  · rcases right.locks_cases with none | again
    · rw [lockSwap, if_neg (by omega), none]
      exact .refl _ _
    · rw [lockSwap, if_pos ⟨one, again⟩, Equiv.swap_apply_left, again]
      exact .refl _ _
  · exact same _ _

theorem lockSwap_right (issued : Nat) (left right : Effect) :
    right.SameAt (lockSwap issued left right (Queue.lockName (issued + left.locks + 1)))
      (Queue.lockName (issued + 1)) := by
  rcases right.issues_or_same with one | same
  · rcases left.locks_cases with none | again
    · rw [lockSwap, if_neg (by omega), none]
      exact .refl _ _
    · rw [lockSwap, if_pos ⟨again, one⟩, again, Equiv.swap_apply_right]
      exact .refl _ _
  · exact same _ _

theorem lockSwap_issued {issued : Nat} {left right : Effect} {lockId : String}
    (moved : lockSwap issued left right lockId ≠ lockId) :
    ∃ number, issued < number ∧ number ≤ issued + left.locks + right.locks ∧
      lockId = Queue.lockName number := by
  rw [lockSwap] at moved
  split at moved
  · rename_i both
    obtain ⟨-, rfl | rfl⟩ := Equiv.swap_apply_ne_self_iff.mp moved
    · exact ⟨issued + 1, by omega, by omega, rfl⟩
    · exact ⟨issued + 2, by omega, by omega, rfl⟩
  · exact absurd rfl moved

-- The two effects land in different records, under different locks and behind one another.
theorem exchanged {left right : QueuedTask} {first second : Effect}
    {halfway other : Host World} (attempts : left.request.attemptId ≠ right.request.attemptId)
    (leftFirst : Applied host left first middle) (rightLast : Applied middle right second after)
    (rightFirst : Applied host right second halfway) (leftLast : Applied halfway left first other) :
    Exchanged host after other (lockSwap host.queue.issued first second) where
  records := by
    intro attemptId
    by_cases ofLeft : attemptId = left.request.attemptId
    · subst ofLeft
      rw [leftLast.record, rightLast.records _ attempts, leftFirst.record]
    · rw [leftLast.records _ ofLeft]
      by_cases ofRight : attemptId = right.request.attemptId
      · subst ofRight
        rw [rightFirst.record, rightLast.record]
      · rw [rightFirst.records _ ofRight, rightLast.records _ ofRight,
          leftFirst.records _ ofLeft]
  delivered := by
    rw [leftLast.delivered, rightFirst.delivered, rightLast.delivered, leftFirst.delivered]
    exact Table.erase_comm ..
  issued := by
    rw [leftLast.issued, rightFirst.issued, rightLast.issued, leftFirst.issued]
    omega
  pending := by
    refine ⟨?_, ?_, ?_, ?_, ?_⟩
    · exact first.tasks (Queue.lockName (host.queue.issued + 1)) ++
        second.tasks (Queue.lockName (middle.queue.issued + 1))
    · exact second.tasks (Queue.lockName (host.queue.issued + 1)) ++
        first.tasks (Queue.lockName (halfway.queue.issued + 1))
    · rw [rightLast.pending, leftFirst.pending, List.append_assoc]
    · rw [leftLast.pending, rightFirst.pending, List.append_assoc]
    · rw [List.map_append, Effect.tasks_relock, Effect.tasks_relock, leftFirst.issued,
        rightFirst.issued, (lockSwap_left host.queue.issued first second).tasks,
        (lockSwap_right host.queue.issued first second).tasks]
      exact List.perm_append_comm
  renamed := by
    intro lockId moved
    rw [rightLast.issued, leftFirst.issued]
    exact lockSwap_issued moved

/-- Two delivered tasks of different attempts can be invoked in either order at one clock reading.
Both orders give the same statuses, records, delivered locks and pending tasks, up to the names of
the locks that are issued and the order of the tasks that are enqueued; and no invocation touches a
record or a queue entry of another attempt. -/
theorem invocations_change_places {leftOperator rightOperator : Operator World}
    {left right : QueuedTask} (calm : host.outages = []) (keyed : host.store.Keyed)
    (leftRepeatable : leftOperator.Repeatable) (rightRepeatable : rightOperator.Repeatable)
    (leftHeld : Table.get? left.lockId host.queue.delivered = some left)
    (rightHeld : Table.get? right.lockId host.queue.delivered = some right)
    (locks : left.lockId ≠ right.lockId)
    (attempts : left.request.attemptId ≠ right.request.attemptId) :
    ∃ leftStatus rightStatus middle after halfway other, ∃ rename : Equiv.Perm String,
      InTurn host leftOperator left rightOperator right leftStatus rightStatus middle after ∧
        InTurn host rightOperator right leftOperator left (rightStatus.relock rename)
          (leftStatus.relock rename) halfway other ∧
        Exchanged host after other rename ∧
        host.Spares left middle ∧ middle.Spares right after ∧
        host.Spares right halfway ∧ halfway.Spares left other := by
  obtain ⟨middle, after, inOrder, leftFirst, rightLast, spares, spared⟩ :=
    invoked_in_turn leftOperator calm keyed rightRepeatable leftHeld rightHeld locks.symm
      attempts.symm
  obtain ⟨halfway, other, turned, rightFirst, leftLast, spares', spared'⟩ :=
    invoked_in_turn rightOperator calm keyed leftRepeatable rightHeld leftHeld locks attempts
  refine ⟨_, _, middle, after, halfway, other,
    lockSwap host.queue.issued (host.effectOf leftOperator left)
      (host.effectOf rightOperator right),
    inOrder, ?_, exchanged attempts leftFirst rightLast rightFirst leftLast, spares, spared,
    spares', spared'⟩
  rw [Effect.status_relock, Effect.status_relock,
    (lockSwap_left host.queue.issued _ _).status, (lockSwap_right host.queue.issued _ _).status]
  exact turned

/-- Counts its invocations in the world, and waits. -/
def countingOperator (interval : Nat) : Operator Nat where
  run _ _ := do
    Action.changeWorld (· + 1)
    Action.suspend interval
  resetKeys := []
  retryByDefault := false

def firstTask : QueuedTask := ⟨"lock-1", ⟨"attempt-1", "+count", .empty, []⟩, .epoch⟩

def secondTask : QueuedTask := ⟨"lock-2", ⟨"attempt-2", "+count", .empty, []⟩, .epoch⟩

def twinSession : HostSession Nat :=
  [.submit firstTask.request, .submit secondTask.request, .poll 2].foldl
    (fun session step => (session.step (countingOperator 5) step).2) (.start 0 0)

def twinHost : Host Nat := twinSession.host

theorem keyed_twinHost : twinHost.store.Keyed :=
  ((((HostSession.Reachable.start 0 0).step (countingOperator 5) (.submit firstTask.request)).step
    (countingOperator 5) (.submit secondTask.request)).step (countingOperator 5) (.poll 2)).keyed

/-- Whichever task comes first gets the next lock, and the other one the lock after it. -/
theorem waits_change_places :
    (countingOperator 5).Repeatable ∧ (countingOperator 7).Repeatable ∧
      ∃ middle after halfway other, ∃ rename : Equiv.Perm String,
        InTurn twinHost (countingOperator 5) firstTask (countingOperator 7) secondTask
            (.scheduled "lock-3" ⟨5, 0, by decide⟩ 5) (.scheduled "lock-4" ⟨7, 0, by decide⟩ 7)
            middle after ∧
          InTurn twinHost (countingOperator 7) secondTask (countingOperator 5) firstTask
            (.scheduled "lock-3" ⟨7, 0, by decide⟩ 7) (.scheduled "lock-4" ⟨5, 0, by decide⟩ 5)
            halfway other ∧
          Exchanged twinHost after other rename ∧
          rename "lock-3" = "lock-4" ∧ rename "lock-4" = "lock-3" := by
  have repeatable : ∀ interval, (countingOperator interval).Repeatable :=
    fun _ _ _ _ _ => ⟨rfl, rfl⟩
  have calm : twinHost.outages = [] := rfl
  have firstHeld : Table.get? firstTask.lockId twinHost.queue.delivered = some firstTask := rfl
  have secondHeld : Table.get? secondTask.lockId twinHost.queue.delivered = some secondTask := rfl
  obtain ⟨leftStatus, rightStatus, middle, after, halfway, other, rename, inOrder, turned,
      exchanged, _⟩ :=
    invocations_change_places calm keyed_twinHost (repeatable 5) (repeatable 7) firstHeld
      secondHeld (by decide) (by decide)
  obtain ⟨began, ended⟩ := inOrder
  obtain rfl : InvocationStatus.scheduled "lock-3" ⟨5, 0, by decide⟩ 5 = leftStatus :=
    Except.ok.inj (congrArg Prod.fst began)
  obtain rfl : (invoke (countingOperator 5) firstTask twinHost).2 = middle :=
    congrArg Prod.snd began
  obtain rfl : InvocationStatus.scheduled "lock-4" ⟨7, 0, by decide⟩ 7 = rightStatus :=
    Except.ok.inj (congrArg Prod.fst ended)
  have later : rename "lock-4" = "lock-3" :=
    (InvocationStatus.scheduled.inj (Except.ok.inj (congrArg Prod.fst turned.1))).1.symm
  obtain rfl : (invoke (countingOperator 7) secondTask twinHost).2 = halfway :=
    congrArg Prod.snd turned.1
  have earlier : rename "lock-3" = "lock-4" :=
    (InvocationStatus.scheduled.inj (Except.ok.inj (congrArg Prod.fst turned.2))).1.symm
  rw [InvocationStatus.relock, InvocationStatus.relock, earlier, later] at turned
  exact ⟨repeatable 5, repeatable 7, _, after, _, other, rename, ⟨began, ended⟩, turned, exchanged,
    earlier, later⟩

end Host

end Resumable
