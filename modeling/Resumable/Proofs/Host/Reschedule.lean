import Resumable.Proofs.Host.Roster
import Resumable.Proofs.Host.Invocation

/-!
A suspended attempt waits out its interval. Its invocation enqueues it for the instant an interval
later than the reading of the clock, or for the last instant of all when that comes first. Until
then every poll passes it over, whatever else is done to the queue.
-/

namespace Resumable

variable {World : Type}

/-- A step that polls before the instant, if it polls, and enqueues none of the tasks in question
for a time before it. -/
def QueueStep.Early (asked : QueuedTask → Prop) (instant : Instant) : QueueStep → Prop
  | .enqueue request readyAt =>
      ∀ lockId, asked ⟨lockId, request, readyAt⟩ → instant.le readyAt = true
  | .poll now _ => instant.le now = false
  | .markDone _ => True

def QueueStep.PolledBefore (instant : Instant) (steps : List QueueStep) : Prop :=
  ∀ now limit, .poll now limit ∈ steps → now.tick < instant.point

theorem QueueStep.PolledBefore.each {instant : Instant} {steps : List QueueStep}
    (before : PolledBefore instant steps) (plain : instant.Plain) {asked : QueuedTask → Prop}
    (enqueues : ∀ request readyAt, .enqueue request readyAt ∈ steps →
      ∀ lockId, asked ⟨lockId, request, readyAt⟩ → instant.le readyAt = true) :
    ∀ step ∈ steps, step.Early asked instant := by
  intro step member
  cases step with
  | enqueue request readyAt => exact enqueues request readyAt member
  | poll now limit =>
      have early := before now limit member
      rw [QueueStep.Early, ← Bool.not_eq_true, Instant.le_iff_tick plain]
      omega
  | markDone lockId => trivial

namespace Queue

variable {queue : Queue} {asked : QueuedTask → Prop} {instant : Instant}

/-- None of the tasks in question is ready before the instant. -/
def HoldsBack (queue : Queue) (asked : QueuedTask → Prop) (instant : Instant) : Prop :=
  ∀ task ∈ queue.pending, asked task → instant.le task.readyAt = true

theorem pending_markDone {lockId : String} {after : Queue}
    (released : queue.markDone lockId = .ok after) : after.pending = queue.pending := by
  rw [markDone] at released
  split at released
  · cases released
    rfl
  · cases released

theorem readyAt_le_of_mem_ready {task : QueuedTask} {now : Instant} {limit : Nat}
    (taken : task ∈ queue.ready now limit) : task.readyAt.le now = true := by
  rw [ready_eq] at taken
  exact (List.mem_filter.mp (List.mem_of_mem_take taken)).2

/-- A poll with room for all that is pending delivers what is ready. -/
theorem mem_ready_of_readyAt_le {task : QueuedTask} {now : Instant} {limit : Nat}
    (pending : task ∈ queue.pending) (due : task.readyAt.le now = true)
    (room : queue.pending.length ≤ limit) : task ∈ queue.ready now limit := by
  have sorted := QueuedTask.sortByReady_perm queue.pending
  have within : (queue.due now).length ≤ limit := by
    calc
      (queue.due now).length ≤ (QueuedTask.sortByReady queue.pending).length :=
        List.length_filter_le ..
      _ = queue.pending.length := sorted.length_eq
      _ ≤ limit := room
  rw [ready_eq, List.take_of_length_le within]
  exact List.mem_filter.mpr ⟨sorted.mem_iff.mpr pending, due⟩

-- Whatever a step does, what was pending is pending still or was delivered by it.
theorem step_pending {task : QueuedTask} (pending : task ∈ queue.pending) (step : QueueStep) :
    task ∈ (queue.step step).1.pending ∨
      ∃ tasks, (queue.step step).2 = .tasks tasks ∧ task ∈ tasks := by
  cases step with
  | enqueue request readyAt => exact .inl (List.mem_append_left _ pending)
  | poll now limit =>
      rcases List.mem_append.mp ((poll_perm queue now limit).mem_iff.mpr pending) with
        taken | left
      · exact .inr ⟨_, rfl, taken⟩
      · exact .inl left
  | markDone lockId =>
      rw [Queue.step]
      cases released : queue.markDone lockId with
      | ok after =>
          rw [← pending_markDone released] at pending
          exact .inl pending
      | error error => exact .inl pending

theorem step_holdsBack (held : queue.HoldsBack asked instant) {step : QueueStep}
    (early : step.Early asked instant) :
    (queue.step step).1.HoldsBack asked instant ∧
      ∀ tasks, (queue.step step).2 = .tasks tasks → ∀ task ∈ tasks, ¬ asked task := by
  cases step with
  | enqueue request readyAt =>
      refine ⟨?_, fun tasks answer => by cases answer⟩
      intro task member question
      rcases List.mem_append.mp member with before | new
      · exact held task before question
      · rw [List.mem_singleton] at new
        rw [new] at question ⊢
        exact early _ question
  | poll now limit =>
      have split := fun task => (poll_perm queue now limit).mem_iff (a := task)
      constructor
      · intro task left question
        exact held task ((split task).mp (List.mem_append_right _ left)) question
      · intro tasks answer task taken question
        cases answer
        -- What is ready now would be ready before the instant.
        have ready := readyAt_le_of_mem_ready taken
        have late := held task ((split task).mp (List.mem_append_left _ taken)) question
        have passed := Instant.le_trans late ready
        rw [QueueStep.Early] at early
        rw [early] at passed
        cases passed
  | markDone lockId =>
      rw [Queue.step]
      cases released : queue.markDone lockId with
      | ok after =>
          refine ⟨?_, fun tasks answer => by cases answer⟩
          intro task member question
          rw [pending_markDone released] at member
          exact held task member question
      | error error => exact ⟨held, fun tasks answer => by cases answer⟩

theorem run_pending {task : QueuedTask} (steps : List QueueStep) {queue : Queue}
    (pending : task ∈ queue.pending) :
    task ∈ (QueueStep.run step queue steps).1.pending ∨
      ∃ tasks, .tasks tasks ∈ (QueueStep.run step queue steps).2 ∧ task ∈ tasks := by
  induction steps generalizing queue with
  | nil => exact .inl pending
  | cons first rest ih =>
      rw [QueueStep.run]
      rcases step_pending pending first with left | ⟨tasks, answer, taken⟩
      · rcases ih left with last | ⟨tasks, answered, taken⟩
        · exact .inl last
        · exact .inr ⟨tasks, List.mem_cons_of_mem _ answered, taken⟩
      · exact .inr ⟨tasks, List.mem_cons.mpr (.inl answer.symm), taken⟩

theorem run_holdsBack {steps : List QueueStep} {queue : Queue}
    (held : queue.HoldsBack asked instant) (early : ∀ step ∈ steps, step.Early asked instant) :
    ∀ tasks, .tasks tasks ∈ (QueueStep.run step queue steps).2 →
      ∀ task ∈ tasks, ¬ asked task := by
  induction steps generalizing queue with
  | nil =>
      intro tasks answered
      cases answered
  | cons first rest ih =>
      rw [List.forall_mem_cons] at early
      obtain ⟨next, undelivered⟩ := step_holdsBack held early.1
      intro tasks answered
      rw [QueueStep.run] at answered
      rcases List.mem_cons.mp answered with now | later
      · exact undelivered tasks now.symm
      · exact ih next early.2 tasks later

end Queue

theorem HostAction.bind_of_ok {α β : Type} {first : HostAction World α}
    {next : α → HostAction World β} {host after : Host World} {value : α}
    (done : first host = (.ok value, after)) : (first >>= next) host = next value after := by
  simp only [Bind.bind, HostAction.bind, done]

namespace Host

/-- What an invocation comes to as a call, when the release of the lock may fail too. -/
def closing (host : Host World) (task : QueuedTask) (status : InvocationStatus) :
    Except StoreError InvocationStatus :=
  match HostAction.takeOutage .markDone host.outages with
  | some (error, _) => .error error
  | none => host.reply task status

def ran (host : Host World) (operator : Operator World) (task : QueuedTask) :
    Operator.Invocation World :=
  operator.invoke (host.restored task.request) host.clock host.world

/-- The request of a suspended attempt, enqueued for the instant. -/
def rescheduled (host : Host World) (task : QueuedTask) (suspension : Suspension)
    (readyAt : Instant) : QueuedTask where
  lockId := Queue.lockName (host.queue.issued + 1)
  request := (host.restored task.request).withState suspension.state
  readyAt := readyAt

/-- The operator suspends, and the invocation enqueues the attempt for the instant. -/
structure Reschedules (time : Timepiece) (operator : Operator World) (task : QueuedTask)
    (host : Host World) (suspension : Suspension) (readyAt : Instant) : Prop where
  suspended : (host.ran operator task).outcome = .ok (.suspended suspension)
  answer : (invokeBy time operator task host).1 =
    host.closing task
      (.scheduled (Queue.lockName (host.queue.issued + 1)) readyAt suspension.retryIntervalSeconds)
  pending : (invokeBy time operator task host).2.queue.pending =
    host.queue.pending ++ [host.rescheduled task suspension readyAt]

theorem markDone_closing (host : Host World) (task : QueuedTask) (status : InvocationStatus) :
    (do markDone task.lockId; return status : HostAction World InvocationStatus) host =
      (host.closing task status, (markDone task.lockId host).2) ∧
    (markDone task.lockId host).2.queue.pending = host.queue.pending := by
  simp only [markDone, HostAction.calling, closing, reply, bind, HostAction.bind]
  cases HostAction.takeOutage .markDone host.outages with
  | some met => exact ⟨rfl, rfl⟩
  | none =>
      rw [Queue.markDone]
      cases Table.has task.lockId host.queue.delivered <;> exact ⟨rfl, rfl⟩

section

variable (time : Timepiece) {operator : Operator World} {task : QueuedTask}
  {host : Host World} {suspension : Suspension}

-- Before the suspension is recorded, only the log, the clock and the world have changed.
theorem invokeBy_suspended (serving : host.Serving)
    (suspended : (host.ran operator task).outcome = .ok (.suspended suspension)) :
    ∃ log, invokeBy time operator task host =
      (do
        let status ← recordSuspensionBy time (host.restored task.request)
          (Table.get? task.request.attemptId host.store) suspension
        markDone task.lockId
        return status)
        { host with
          log := log
          clock := (host.ran operator task).clock
          world := (host.ran operator task).world } := by
  obtain ⟨log, invoked⟩ := invokeBy_eq time serving.loads operator task
  rw [ran] at suspended
  rw [invoked]
  simp only [concludeBy, runOperator, bind, HostAction.bind, suspended, settleBy]
  exact ⟨_, rfl⟩

theorem invokeBy_reschedules (serving : host.Serving)
    (suspended : (host.ran operator task).outcome = .ok (.suspended suspension)) :
    Reschedules time operator task host suspension
      ((time.read (host.ran operator task).clock).addSecondsBy time.add?
        suspension.retryIntervalSeconds) := by
  obtain ⟨log, invoked⟩ := invokeBy_suspended time serving suspended
  obtain ⟨last, recorded⟩ := recordSuspensionBy_eq time
    { host with
      log := log
      clock := (host.ran operator task).clock
      world := (host.ran operator task).world }
    ⟨serving.loads, serving.saves, serving.enqueues⟩ (host.restored task.request)
    (Table.get? task.request.attemptId host.store) suspension
  rw [HostAction.bind_of_ok recorded] at invoked
  obtain ⟨closed, kept⟩ := markDone_closing _ task _
  rw [closed] at invoked
  refine ⟨suspended, ?_, ?_⟩
  · rw [invoked]
    rfl
  · rw [invoked, kept]
    rfl

end

namespace Reschedules

variable {time : Timepiece} {operator : Operator World} {task : QueuedTask}
  {host : Host World} {suspension : Suspension} {readyAt : Instant}

theorem readyAt_eq (scheduled : Reschedules time operator task host suspension readyAt)
    (serving : host.Serving) :
    readyAt =
      (time.read (host.ran operator task).clock).addSecondsBy time.add?
        suspension.retryIntervalSeconds := by
  have computed := (invokeBy_reschedules time serving scheduled.suspended).pending
  rw [scheduled.pending] at computed
  have same := List.singleton_inj.mp (List.append_cancel_left computed)
  exact congrArg QueuedTask.readyAt same

theorem holdsBack (scheduled : Reschedules time operator task host suspension readyAt)
    {asked : QueuedTask → Prop} (held : host.queue.HoldsBack asked readyAt) :
    (invokeBy time operator task host).2.queue.HoldsBack asked readyAt := by
  intro other member question
  rw [scheduled.pending] at member
  rcases List.mem_append.mp member with before | new
  · exact held other before question
  · rw [List.mem_singleton.mp new]
    exact Instant.le_refl readyAt

theorem waits (scheduled : Reschedules time operator task host suspension readyAt)
    (plain : readyAt.Plain) {steps : List QueueStep}
    (early : QueueStep.PolledBefore readyAt steps) :
    host.rescheduled task suspension readyAt ∈
        (QueueStep.run Queue.step (invokeBy time operator task host).2.queue steps).1.pending ∧
      ∀ tasks,
        .tasks tasks ∈
          (QueueStep.run Queue.step (invokeBy time operator task host).2.queue steps).2 →
        host.rescheduled task suspension readyAt ∉ tasks := by
  let entry := host.rescheduled task suspension readyAt
  have pending : entry ∈ (invokeBy time operator task host).2.queue.pending := by
    rw [scheduled.pending]
    exact List.mem_append_right _ (List.mem_singleton.mpr rfl)
  have held : (invokeBy time operator task host).2.queue.HoldsBack (· = entry) readyAt := by
    intro other _ same
    rw [same]
    exact Instant.le_refl readyAt
  have passes : ∀ step ∈ steps, step.Early (· = entry) readyAt := by
    apply early.each plain
    intro request ready _ lockId same
    have sameTime : ready = readyAt := congrArg QueuedTask.readyAt same
    rw [sameTime]
    exact Instant.le_refl readyAt
  have undelivered : ∀ tasks,
      .tasks tasks ∈
        (QueueStep.run Queue.step (invokeBy time operator task host).2.queue steps).2 →
      entry ∉ tasks := by
    intro tasks answered taken
    exact Queue.run_holdsBack held passes tasks answered entry taken rfl
  refine ⟨?_, undelivered⟩
  rcases Queue.run_pending steps pending with left | ⟨tasks, answered, taken⟩
  · exact left
  · exact absurd taken (undelivered tasks answered)

/-- An attempt with nothing else in the queue is not delivered until then, unless somebody else
enqueues it. -/
theorem attempt_waits (scheduled : Reschedules time operator task host suspension readyAt)
    (plain : readyAt.Plain) {steps : List QueueStep}
    (early : QueueStep.PolledBefore readyAt steps)
    (alone : ∀ other ∈ host.queue.pending, other.request.attemptId ≠ task.request.attemptId)
    (left : ∀ request ready, .enqueue request ready ∈ steps →
      request.attemptId ≠ task.request.attemptId) :
    ∀ tasks,
      .tasks tasks ∈
        (QueueStep.run Queue.step (invokeBy time operator task host).2.queue steps).2 →
      ∀ other ∈ tasks, other.request.attemptId ≠ task.request.attemptId := by
  let asked (other : QueuedTask) : Prop := other.request.attemptId = task.request.attemptId
  have held : host.queue.HoldsBack asked readyAt := by
    intro other member same
    exact absurd same (alone other member)
  have passes : ∀ step ∈ steps, step.Early asked readyAt := by
    apply early.each plain
    intro request ready member lockId same
    exact absurd same (left request ready member)
  exact Queue.run_holdsBack (scheduled.holdsBack held) passes

end Reschedules

/-- A suspended attempt waits out its interval. At any time outside a leap second the invocation
enqueues it for the exact instant an interval later, or for the last instant when that comes first.
That is not before the time it was read at, and a longer interval never makes it earlier. No poll
before it delivers the attempt, and the first one after it does that has room for all tasks. -/
theorem suspended_attempt_waits_out_its_interval (time : Timepiece) (adds : Instant.Adds time.add?)
    (operator : Operator World) (task : QueuedTask) {host : Host World} (serving : host.Serving)
    {suspension : Suspension}
    (suspended : (host.ran operator task).outcome = .ok (.suspended suspension))
    {now : Instant} (reads : time.read (host.ran operator task).clock = now) (plain : now.Plain) :
    ∃ readyAt, Reschedules time operator task host suspension readyAt ∧
      readyAt.Plain ∧
      readyAt.point =
        min (now.point + suspension.retryIntervalSeconds * 1000000000) Instant.latest.point ∧
      (∀ other, readyAt.le other = true ↔ readyAt.point ≤ other.tick) ∧
      now.le readyAt = true ∧
      (∀ (Other : Type) (otherTime : Timepiece) (code : Operator Other) (other : QueuedTask)
        (place : Host Other) (longer : Suspension) (later : Instant),
        Instant.Adds otherTime.add? → place.Serving →
        Reschedules otherTime code other place longer later →
        otherTime.read (place.ran code other).clock = now →
        suspension.retryIntervalSeconds ≤ longer.retryIntervalSeconds →
        readyAt.le later = true) ∧
      ∀ steps, QueueStep.PolledBefore readyAt steps →
        let (queue, answers) :=
          QueueStep.run Queue.step (invokeBy time operator task host).2.queue steps
        host.rescheduled task suspension readyAt ∈ queue.pending ∧
        (∀ tasks, .tasks tasks ∈ answers → host.rescheduled task suspension readyAt ∉ tasks) ∧
        (∀ later limit, readyAt.le later = true → queue.pending.length ≤ limit →
          host.rescheduled task suspension readyAt ∈ (queue.pollReady later limit).2) ∧
        ((∀ other ∈ host.queue.pending, other.request.attemptId ≠ task.request.attemptId) →
          (∀ request ready, .enqueue request ready ∈ steps →
            request.attemptId ≠ task.request.attemptId) →
          ∀ tasks, .tasks tasks ∈ answers →
            ∀ other ∈ tasks, other.request.attemptId ≠ task.request.attemptId) := by
  subst reads
  have scheduled := invokeBy_reschedules time serving suspended
  obtain ⟨plainLater, exactly⟩ :=
    Instant.point_addSecondsBy adds plain suspension.retryIntervalSeconds
  refine ⟨_, scheduled, plainLater, exactly, ?_, Instant.le_addSecondsBy adds plain _, ?_, ?_⟩
  · intro other
    exact Instant.le_iff_tick plainLater
  · intro Other otherTime code other place longer later others placeServing rescheduled same within
    rw [rescheduled.readyAt_eq placeServing, same]
    exact Instant.addSecondsBy_mono adds others plain within
  · intro steps early
    obtain ⟨pending, undelivered⟩ := scheduled.waits plainLater early
    refine ⟨pending, undelivered, ?_, scheduled.attempt_waits plainLater early⟩
    intro later limit due room
    exact Queue.mem_ready_of_readyAt_le pending due room

def sleepingOperator : Operator Unit where
  run _ _ := Action.suspend ((1 <<< 64) - 1)
  resetKeys := []
  retryByDefault := false

def sleepingTask : QueuedTask := ⟨"lock-1", ⟨"attempt-1", "+sleep", .empty, []⟩, .epoch⟩

/-- The task has been delivered, and the call that releases a lock is bound to fail once. -/
def sleepingHost : Host Unit where
  store := []
  queue := ⟨1, [], [("lock-1", sleepingTask)]⟩
  clock := ⟨0⟩
  outages := [(.markDone, .backend "away")]
  log := []
  world := ()

/-- Reads the first instant of all, whatever the clock. -/
def earliestTime : Timepiece := ⟨fun _ => ⟨Instant.firstSecond, 0, by decide⟩, Instant.add?⟩

def earlySteps : List QueueStep := [.poll .epoch 1]

/-- From the first instant of all, the longest interval leads to the last one. A poll at the epoch
leaves the task where it is, and the next one at the last instant delivers it. -/
theorem longest_interval_ends_at_the_last_instant :
    Instant.Adds earliestTime.add? ∧ sleepingHost.Serving ∧
      (sleepingHost.ran sleepingOperator sleepingTask).outcome =
        .ok (.suspended (.of 18446744073709551615 [])) ∧
      ∃ readyAt, Reschedules earliestTime sleepingOperator sleepingTask sleepingHost
          (.of 18446744073709551615 []) readyAt ∧
        readyAt.point = Instant.latest.point ∧
        QueueStep.PolledBefore readyAt earlySteps ∧
        let (queue, answers) := QueueStep.run Queue.step
          (invokeBy earliestTime sleepingOperator sleepingTask sleepingHost).2.queue earlySteps
        let asleep := sleepingHost.rescheduled sleepingTask (.of 18446744073709551615 []) readyAt
        asleep ∈ queue.pending ∧ (∀ tasks, .tasks tasks ∈ answers → asleep ∉ tasks) ∧
          asleep ∈ (queue.pollReady .latest 1).2 := by
  have serving : sleepingHost.Serving := ⟨rfl, rfl, rfl⟩
  have suspended : (sleepingHost.ran sleepingOperator sleepingTask).outcome =
      .ok (.suspended (.of 18446744073709551615 [])) := rfl
  have plain : (earliestTime.read ⟨0⟩).Plain := by
    unfold Instant.Plain
    decide
  obtain ⟨readyAt, scheduled, _, exactly, ordered, _, _, waits⟩ :=
    suspended_attempt_waits_out_its_interval earliestTime Instant.adds sleepingOperator
      sleepingTask serving suspended rfl plain
  have last : readyAt.point = Instant.latest.point := exactly.trans rfl
  have early : QueueStep.PolledBefore readyAt earlySteps := by
    intro now limit member
    cases List.mem_singleton.mp member
    rw [last]
    decide
  have due : readyAt.le .latest = true := by
    rw [ordered, last]
    decide
  obtain ⟨pending, undelivered, delivered, _⟩ := waits earlySteps early
  exact ⟨Instant.adds, serving, suspended, readyAt, scheduled, last, early, pending, undelivered,
    delivered .latest 1 due (Nat.le_of_eq rfl)⟩

end Host

end Resumable
