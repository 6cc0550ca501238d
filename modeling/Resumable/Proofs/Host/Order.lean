import Resumable.Proofs.Host.Queue
import Resumable.Proofs.Time.Instant

/-!
The order in which a queue delivers. Its pending tasks are sorted again by each poll; tasks that are
ready at one time keep the order they were in, and sorting a sorted list changes nothing. So a poll
takes exactly the tasks that are ready, and two polls at one time take what one poll would.
-/

namespace Resumable

namespace QueuedTask

def NoLater (first second : QueuedTask) : Prop := first.readyAt.le second.readyAt = true

theorem insertByReady_pairwise {Before : QueuedTask → QueuedTask → Prop} {task : QueuedTask}
    {tasks : List QueuedTask} (sorted : tasks.Pairwise NoLater) (ordered : tasks.Pairwise Before)
    (ahead : ∀ other ∈ tasks, task.NoLater other → Before task other)
    (behind : ∀ other ∈ tasks, ¬ task.NoLater other → Before other task) :
    (insertByReady task tasks).Pairwise Before := by
  induction tasks with
  | nil => simp [insertByReady]
  | cons first rest ih =>
      rw [List.pairwise_cons] at sorted ordered
      rw [insertByReady]
      by_cases early : task.readyAt.le first.readyAt = true
      · rw [if_pos early, List.pairwise_cons, List.pairwise_cons]
        refine ⟨?_, ordered⟩
        intro other member
        rcases List.mem_cons.mp member with rfl | later
        · exact ahead other List.mem_cons_self early
        · exact ahead other member (Instant.le_trans early (sorted.1 other later))
      · rw [if_neg early, List.pairwise_cons]
        constructor
        · intro other member
          rcases List.mem_cons.mp ((insertByReady_perm task rest).mem_iff.mp member) with
            rfl | later
          · exact behind first List.mem_cons_self early
          · exact ordered.1 other later
        · exact ih sorted.2 ordered.2
            (fun other later => ahead other (List.mem_cons_of_mem first later))
            (fun other later => behind other (List.mem_cons_of_mem first later))

theorem sortByReady_sorted (tasks : List QueuedTask) : (sortByReady tasks).Pairwise NoLater := by
  induction tasks with
  | nil => exact .nil
  | cons task rest ih =>
      apply insertByReady_pairwise ih ih
      · intro other _ early
        exact early
      · intro other _ late
        exact (Instant.le_total task.readyAt other.readyAt).resolve_left late

-- A sort that keeps the order of ties sorts by any order that refines the time of readiness.
theorem sortByReady_pairwise {Before : QueuedTask → QueuedTask → Prop} {tasks : List QueuedTask}
    (earlier : ∀ first second : QueuedTask, ¬ second.NoLater first → Before first second)
    (ties : tasks.Pairwise fun first second =>
      first.readyAt = second.readyAt → Before first second) :
    (sortByReady tasks).Pairwise Before := by
  induction tasks with
  | nil => exact .nil
  | cons task rest ih =>
      rw [List.pairwise_cons] at ties
      apply insertByReady_pairwise (sortByReady_sorted rest) (ih ties.2)
      · intro other member early
        by_cases late : other.NoLater task
        · exact ties.1 other ((sortByReady_perm rest).mem_iff.mp member)
            (Instant.le_antisymm early late)
        · exact earlier task other late
      · intro other _ late
        exact earlier other task late

theorem sortByReady_of_sorted {tasks : List QueuedTask} (sorted : tasks.Pairwise NoLater) :
    sortByReady tasks = tasks := by
  induction tasks with
  | nil => rfl
  | cons task rest ih =>
      rw [List.pairwise_cons] at sorted
      change insertByReady task (sortByReady rest) = task :: rest
      rw [ih sorted.2]
      cases rest with
      | nil => rfl
      | cons first others =>
          have early : task.readyAt.le first.readyAt = true := sorted.1 first List.mem_cons_self
          rw [insertByReady, if_pos early]

-- In order of readiness, the first task that is not ready has no ready one behind it.
theorem takeWhile_ready {tasks : List QueuedTask} (sorted : tasks.Pairwise NoLater)
    (now : Instant) :
    (tasks.takeWhile fun task => task.isReady now) =
      tasks.filter fun task => task.isReady now := by
  induction tasks with
  | nil => rfl
  | cons task rest ih =>
      rw [List.pairwise_cons] at sorted
      by_cases ready : task.isReady now = true
      · simp only [List.takeWhile_cons, List.filter_cons, ready, if_true, ih sorted.2]
      · have none : (rest.filter fun other => other.isReady now) = [] := by
          rw [List.filter_eq_nil_iff]
          intro other later due
          exact ready (Instant.le_trans (sorted.1 other later) due)
        simp [ready, none]

end QueuedTask

namespace Queue

/-- The pending tasks that are ready, in the order in which they are delivered. -/
def due (queue : Queue) (now : Instant) : List QueuedTask :=
  (QueuedTask.sortByReady queue.pending).filter fun task => task.isReady now

theorem ready_eq (queue : Queue) (now : Instant) (limit : Nat) :
    queue.ready now limit = (queue.due now).take limit := by
  rw [ready, due, QueuedTask.takeWhile_ready (QueuedTask.sortByReady_sorted queue.pending)]

-- What a poll leaves is in order already.
theorem sortByReady_waiting (queue : Queue) (now : Instant) (limit : Nat) :
    QueuedTask.sortByReady (queue.waiting now limit) = queue.waiting now limit :=
  QueuedTask.sortByReady_of_sorted <|
    (QueuedTask.sortByReady_sorted queue.pending).sublist (List.drop_sublist _ _)

theorem due_deliver (queue : Queue) (now : Instant) (limit : Nat) :
    (queue.deliver now limit).due now = (queue.due now).drop limit := by
  have whole : queue.due now =
      queue.ready now limit ++ (queue.waiting now limit).filter fun task => task.isReady now := by
    have kept : (queue.ready now limit).filter (fun task => task.isReady now) =
        queue.ready now limit := by
      rw [ready_eq, List.filter_eq_self]
      intro task member
      exact (List.mem_filter.mp (List.mem_of_mem_take member)).2
    rw [due, ← ready_append_waiting queue now limit, List.filter_append, kept]
  rw [due, deliver, sortByReady_waiting]
  rw [ready_eq] at whole
  have split := (List.take_append_drop limit (queue.due now)).trans whole
  exact (List.append_cancel_left split).symm

/-- Polls with two limits at one time come to one poll with their sum. -/
theorem pollReady_add (queue : Queue) (now : Instant) (first second : Nat) :
    queue.pollReady now (first + second) =
      (((queue.deliver now first).deliver now second),
        queue.ready now first ++ (queue.deliver now first).ready now second) := by
  have taken : queue.ready now (first + second) =
      queue.ready now first ++ (queue.deliver now first).ready now second := by
    rw [ready_eq, ready_eq, ready_eq, due_deliver, List.take_add]
  have left : queue.waiting now (first + second) =
      (queue.deliver now first).waiting now second := by
    rw [waiting, waiting, deliver, sortByReady_waiting, waiting, List.drop_drop, taken,
      List.length_append]
    rfl
  rw [pollReady, taken, deliver, left, taken, List.foldl_append]
  rfl

end Queue

end Resumable
