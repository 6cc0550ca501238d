import Resumable.Proofs.Host.Roster

/-!
Whatever the order of its steps, the queue answers as the roster does, and has its pending and its
delivered tasks. Sorting keeps ties in the order they were in, so that the pending tasks need not be
in the order of arrival as a whole: it is enough that ties are, which arrivals and polls preserve.
-/

namespace Resumable

/-- The queue has the tasks of the roster where they are, the pending ones with ties in the order of
arrival. -/
structure Queue.Refines (queue : Queue) (roster : Roster) : Prop where
  issued : queue.issued = roster.tasks.length
  numbered : roster.Numbered
  pending : queue.pending.Perm (roster.staged .pending)
  ties : queue.pending.Pairwise fun first second =>
    first.readyAt = second.readyAt → roster.arrival first ≤ roster.arrival second
  delivered : queue.delivered.Perm ((roster.staged .delivered).map Queue.entry)

namespace Queue.Refines

variable {queue : Queue} {roster : Roster}

theorem empty : Queue.empty.Refines .empty where
  issued := rfl
  numbered := rfl
  pending := .refl _
  ties := .nil
  delivered := .refl _

theorem mem_tasks (refines : queue.Refines roster) {task : QueuedTask}
    (member : task ∈ queue.pending) : task ∈ roster.tasks :=
  (Roster.mem_staged.mp (refines.pending.mem_iff.mp member)).1

theorem sorted (refines : queue.Refines roster) :
    (QueuedTask.sortByReady queue.pending).Pairwise
      (fun first second => roster.precedes first second = true) := by
  apply QueuedTask.sortByReady_pairwise
  · intro first second early
    have apart : first.readyAt ≠ second.readyAt := by
      rintro same
      rw [QueuedTask.NoLater, same] at early
      exact early (Instant.le_refl _)
    rw [Roster.precedes, if_neg apart]
    exact (Instant.le_total first.readyAt second.readyAt).resolve_right early
  · refine refines.ties.imp ?_
    intro first second ties same
    rw [Roster.precedes, if_pos same]
    exact decide_eq_true (ties same)

theorem due (refines : queue.Refines roster) (now : Instant) : queue.due now = roster.due now := by
  have same : (queue.due now).Perm (roster.due now) :=
    (((QueuedTask.sortByReady_perm queue.pending).trans refines.pending).filter _).trans
      (List.mergeSort_perm _ _).symm
  have among : ∀ task ∈ queue.due now, task ∈ roster.tasks := by
    intro task member
    have sorted := (List.mem_filter.mp member).1
    exact refines.mem_tasks ((QueuedTask.sortByReady_perm queue.pending).mem_iff.mp sorted)
  refine same.eq_of_pairwise ?_ (refines.sorted.filter _)
    (List.pairwise_mergeSort roster.precedes_trans roster.precedes_total _)
  intro first second one other early late
  exact Roster.precedes_antisymm refines.numbered (among first one)
    (among second (same.mem_iff.mpr other)) early late

theorem enqueue (refines : queue.Refines roster) (request : TaskRequest) (readyAt : Instant) :
    (queue.enqueue request readyAt).1.Refines (roster.enqueue request readyAt).1 where
  issued := by
    rw [Queue.enqueue, Roster.enqueue, List.length_append, refines.issued]
    rfl
  numbered := by
    rw [Roster.Numbered, Roster.locks_enqueue, refines.numbered]
    simp [Roster.enqueue, List.range_succ]
  pending := by
    rw [Roster.staged_enqueue refines.numbered, if_pos rfl, Queue.enqueue, refines.issued]
    exact refines.pending.append_right _
  ties := by
    rw [Queue.enqueue, refines.issued, List.pairwise_append]
    refine ⟨?_, List.pairwise_singleton .., ?_⟩
    · apply refines.ties.imp_of_mem
      intro first second one other ties same
      rw [Roster.arrival_enqueue (refines.mem_tasks one),
        Roster.arrival_enqueue (refines.mem_tasks other)]
      exact ties same
    · intro first one second other _
      rw [List.mem_singleton] at other
      have last : (roster.enqueue request readyAt).1.arrival second = roster.tasks.length := by
        rw [other, Roster.arrival, Roster.locks_enqueue,
          List.idxOf_append_of_notMem refines.numbered.fresh, List.idxOf_cons_self,
          Roster.locks, List.length_map, Nat.add_zero]
      rw [Roster.arrival_enqueue (refines.mem_tasks one), last]
      exact Nat.le_of_lt (Roster.arrival_lt (refines.mem_tasks one))
  delivered := by
    rw [Roster.staged_enqueue refines.numbered, if_neg (by decide), List.append_nil]
    exact refines.delivered

theorem answer_poll (refines : queue.Refines roster) (now : Instant) (limit : Nat) :
    queue.ready now limit = (roster.poll now limit).2 := by
  rw [ready_eq, refines.due now]
  rfl

-- What a poll leaves was pending and is not taken.
theorem pending_poll (refines : queue.Refines roster) (now : Instant) (limit : Nat) :
    (queue.waiting now limit).Perm ((roster.poll now limit).1.staged .pending) := by
  have whole : (queue.ready now limit ++ queue.waiting now limit).Perm (roster.staged .pending) :=
    (poll_perm queue now limit).trans refines.pending
  have distinct := whole.nodup_iff.mpr (Roster.nodup_staged refines.numbered .pending)
  have numbered : (roster.poll now limit).1.Numbered := refines.numbered
  apply (List.perm_ext_iff_of_nodup distinct.of_append_right
    (Roster.nodup_staged numbered .pending)).mpr
  intro task
  rw [Roster.mem_staged_poll refines.numbered, ← refines.answer_poll, ← whole.mem_iff,
    List.mem_append]
  constructor
  · intro waits
    refine .inr ⟨?_, .inr waits⟩
    intro taken
    exact List.disjoint_of_nodup_append distinct taken waits
  · rintro (⟨_, same⟩ | ⟨left, before⟩)
    · cases same
    · exact before.resolve_left left

theorem delivered_poll (refines : queue.Refines roster) (now : Instant) (limit : Nat) :
    (queue.deliver now limit).delivered.Perm
      ((roster.staged .delivered ++ (roster.poll now limit).2).map entry) := by
  have numbered : (roster.poll now limit).1.Numbered := refines.numbered
  have staged := Roster.staged_poll refines.numbered now limit
  have distinct : ((roster.staged .delivered ++ (roster.poll now limit).2).map
      QueuedTask.lockId).Nodup := by
    apply refines.numbered.nodup_locks
    · exact staged.nodup_iff.mpr (Roster.nodup_staged numbered .delivered)
    · intro task member
      exact (Roster.mem_staged.mp (staged.mem_iff.mp member)).1
  rw [deliver, refines.answer_poll]
  exact foldl_insert_perm refines.delivered distinct

theorem poll (refines : queue.Refines roster) (now : Instant) (limit : Nat) :
    (queue.deliver now limit).Refines (roster.poll now limit).1 where
  issued := refines.issued
  numbered := refines.numbered
  pending := refines.pending_poll now limit
  ties := by
    -- Sorting has put ties in the order of arrival.
    have ties := refines.sorted.sublist (List.drop_sublist (queue.ready now limit).length _)
    apply ties.imp
    intro first second early same
    rw [Roster.precedes, if_pos same] at early
    exact of_decide_eq_true early
  delivered := (refines.delivered_poll now limit).trans
    ((Roster.staged_poll refines.numbered now limit).map entry)

theorem has_iff (refines : queue.Refines roster) (lockId : String) :
    Table.has lockId queue.delivered = true ↔
      lockId ∈ (roster.staged .delivered).map QueuedTask.lockId := by
  rw [Table.has, Option.isSome_iff_ne_none, ne_eq, Table.get?_eq_none_iff, not_not,
    (keys_perm refines.delivered).mem_iff]

theorem release (refines : queue.Refines roster) {lockId : String}
    (delivered : lockId ∈ (roster.staged .delivered).map QueuedTask.lockId) :
    Refines { queue with delivered := Table.erase lockId queue.delivered }
      { roster with stage := Function.update roster.stage lockId .released } where
  issued := refines.issued
  numbered := refines.numbered
  pending := by
    obtain ⟨released, member, same⟩ := List.mem_map.mp delivered
    have stands : roster.stage lockId = .delivered := same ▸ (Roster.mem_staged.mp member).2
    refine refines.pending.trans (.of_eq (List.filter_congr ?_))
    intro task _
    by_cases this : task.lockId = lockId
    · simp [this, stands]
    · simp [this]
  ties := refines.ties
  delivered := by
    have removed := refines.delivered.filter fun entry => entry.1 != lockId
    rw [List.filter_map, Roster.staged, List.filter_filter] at removed
    refine removed.trans (.of_eq (congrArg _ (List.filter_congr ?_)))
    intro task _
    by_cases this : task.lockId = lockId
    · simp [entry, this]
    · simp [entry, this]

theorem step (refines : queue.Refines roster) (step : QueueStep) :
    (queue.step step).1.Refines (roster.step step).1 ∧
      (queue.step step).2 = (roster.step step).2 := by
  cases step with
  | enqueue request readyAt =>
      refine ⟨refines.enqueue request readyAt, ?_⟩
      rw [Queue.step, Roster.step, Queue.enqueue, Roster.enqueue, refines.issued]
  | poll now limit =>
      refine ⟨refines.poll now limit, ?_⟩
      rw [Queue.step, pollReady, refines.answer_poll]
      rfl
  | markDone lockId =>
      rw [Queue.step, Roster.step, Queue.markDone, Roster.markDone]
      by_cases delivered : lockId ∈ (roster.staged .delivered).map QueuedTask.lockId
      · rw [if_pos ((refines.has_iff lockId).mpr delivered), if_pos delivered]
        exact ⟨refines.release delivered, rfl⟩
      · rw [if_neg (mt (refines.has_iff lockId).mp delivered), if_neg delivered]
        exact ⟨refines, rfl⟩

theorem run (refines : queue.Refines roster) (steps : List QueueStep) :
    (QueueStep.run Queue.step queue steps).1.Refines (QueueStep.run Roster.step roster steps).1 ∧
      (QueueStep.run Queue.step queue steps).2 = (QueueStep.run Roster.step roster steps).2 := by
  induction steps generalizing queue roster with
  | nil => exact ⟨refines, rfl⟩
  | cons first rest ih =>
      obtain ⟨after, answer⟩ := refines.step first
      obtain ⟨last, answers⟩ := ih after
      exact ⟨last, congr (congrArg _ answer) answers⟩

end Queue.Refines

/-- After any steps, the queue has given the answers of the roster, and every task is pending,
delivered or released as it is there, under a lock of its own and as it was enqueued. A poll takes
the first of the tasks that are due, ordered by readiness and then by arrival, from the pending ones
and adds them to the delivered ones; a task can be marked done exactly if it is delivered; and polls
with two limits at one time come to one poll with their sum. -/
theorem queue_refines_roster (steps : List QueueStep) :
    let queue := (QueueStep.run Queue.step .empty steps).1
    let answers := (QueueStep.run Queue.step .empty steps).2
    let roster := (QueueStep.run Roster.step .empty steps).1
    answers = (QueueStep.run Roster.step .empty steps).2 ∧
      roster.locks = answers.filterMap QueueAnswer.lock? ∧ roster.locks.Nodup ∧
      roster.arrivals = steps.filterMap QueueStep.arrival? ∧
      queue.pending.Perm (roster.staged .pending) ∧
      queue.delivered.Perm ((roster.staged .delivered).map Queue.entry) ∧
      (∀ now limit,
        let (after, taken) := queue.pollReady now limit
        taken = (roster.due now).take limit ∧
          (taken ++ after.pending).Perm queue.pending ∧
          after.delivered.Perm (queue.delivered ++ taken.map Queue.entry)) ∧
      (∀ lockId,
        if lockId ∈ (roster.staged .delivered).map QueuedTask.lockId then
          queue.markDone lockId =
            .ok { queue with delivered := Table.erase lockId queue.delivered }
        else queue.markDone lockId = .error (.notFound lockId)) ∧
      ∀ now first second,
        let (middle, soon) := queue.pollReady now first
        let (last, next) := middle.pollReady now second
        queue.pollReady now (first + second) = (last, soon ++ next) := by
  intro queue answers roster
  obtain ⟨refines, same⟩ := Queue.Refines.empty.run steps
  obtain ⟨arrivals, locks⟩ := Roster.run_arrivals .empty steps
  refine ⟨same, ?_, refines.numbered.nodup, arrivals, refines.pending, refines.delivered, ?_, ?_,
    ?_⟩
  · rw [← same] at locks
    exact locks
  · intro now limit
    refine ⟨refines.answer_poll now limit, Queue.poll_perm queue now limit, ?_⟩
    have added := refines.delivered_poll now limit
    rw [List.map_append, ← refines.answer_poll] at added
    exact added.trans (refines.delivered.symm.append_right _)
  · intro lockId
    rw [Queue.markDone]
    by_cases delivered : lockId ∈ (roster.staged .delivered).map QueuedTask.lockId
    · rw [if_pos delivered, if_pos ((refines.has_iff lockId).mpr delivered)]
    · rw [if_neg delivered, if_neg (mt (refines.has_iff lockId).mp delivered)]
  · intro now first second
    exact queue.pollReady_add now first second

def lateTask : QueuedTask := ⟨"lock-1", ⟨"attempt-1", "+late", .empty, []⟩, ⟨1, 0, by decide⟩⟩

def dueTask : QueuedTask := ⟨"lock-2", ⟨"attempt-2", "+due", .empty, []⟩, .epoch⟩

/-- Both are polled for at the epoch; the first to arrive is ready a second later. -/
def twoSteps : List QueueStep :=
  [.enqueue lateTask.request lateTask.readyAt, .enqueue dueTask.request dueTask.readyAt,
    .poll .epoch 2]

/-- The queue delivers the task that is due and keeps the other one, which is the only one to be due
a second later; and the roster says the same. -/
theorem late_task_is_passed_over :
    let queue := (QueueStep.run Queue.step .empty twoSteps).1
    let roster := (QueueStep.run Roster.step .empty twoSteps).1
    (QueueStep.run Queue.step .empty twoSteps).2 =
        [.lock "lock-1", .lock "lock-2", .tasks [dueTask]] ∧
      (QueueStep.run Roster.step .empty twoSteps).2 =
        [.lock "lock-1", .lock "lock-2", .tasks [dueTask]] ∧
      roster.staged .pending = [lateTask] ∧ roster.staged .delivered = [dueTask] ∧
      (queue.pollReady .epoch 2).2 = [] ∧ (roster.due .epoch).take 2 = [] ∧
      (queue.pollReady lateTask.readyAt 2).2 = [lateTask] ∧
      (roster.due lateTask.readyAt).take 2 = [lateTask] := by
  intro queue roster
  obtain ⟨answers, _, _, _, pending, delivered, polls, _⟩ := queue_refines_roster twoSteps
  have staged : roster.staged .pending = [lateTask] := List.perm_singleton.mp pending.symm
  have entries : (roster.staged .delivered).map Queue.entry = [Queue.entry dueTask] :=
    List.perm_singleton.mp delivered.symm
  refine ⟨rfl, answers.symm, staged, ?_, rfl, (polls .epoch 2).1.symm, rfl,
    (polls lateTask.readyAt 2).1.symm⟩
  obtain ⟨task, alone, same⟩ := List.map_eq_singleton_iff.mp entries
  obtain rfl : task = dueTask := congrArg Prod.snd same
  exact alone

end Resumable
