import Mathlib.Data.List.Nodup
import Mathlib.Data.List.Sort
import Mathlib.Logic.Function.Basic
import Resumable.Proofs.Host.Order

/-!
A reference for the queue. The roster keeps every task there has been in the order of arrival, with
the stage it has reached. A poll orders the tasks that are due anew, by the time of readiness and
then by arrival, so that what it takes does not depend on how earlier polls left the tasks.
-/

namespace Resumable

inductive QueueStep where
  | enqueue (request : TaskRequest) (readyAt : Instant)
  | poll (now : Instant) (limit : Nat)
  | markDone (lockId : String)

inductive QueueAnswer where
  | lock (lockId : String)
  | tasks (tasks : List QueuedTask)
  | done
  | failed (error : StoreError)

/-- What a step enqueues. -/
def QueueStep.arrival? : QueueStep → Option (TaskRequest × Instant)
  | .enqueue request readyAt => some (request, readyAt)
  | _ => none

/-- The lock that an answer gives out. -/
def QueueAnswer.lock? : QueueAnswer → Option String
  | .lock lockId => some lockId
  | _ => none

def Queue.step (queue : Queue) : QueueStep → Queue × QueueAnswer
  | .enqueue request readyAt =>
      let (after, lockId) := queue.enqueue request readyAt
      (after, .lock lockId)
  | .poll now limit =>
      let (after, tasks) := queue.pollReady now limit
      (after, .tasks tasks)
  | .markDone lockId =>
      match queue.markDone lockId with
      | .ok after => (after, .done)
      | .error error => (queue, .failed error)

inductive Stage where
  | pending
  | delivered
  | released
  deriving DecidableEq

structure Roster where
  /-- Every task there has been, in the order of arrival. -/
  tasks : List QueuedTask
  /-- Where the task of a lock is now. -/
  stage : String → Stage

namespace Roster

def empty : Roster := ⟨[], fun _ => .pending⟩

def locks (roster : Roster) : List String := roster.tasks.map QueuedTask.lockId

/-- The tasks at a stage, in the order of arrival. -/
def staged (roster : Roster) (stage : Stage) : List QueuedTask :=
  roster.tasks.filter fun task => roster.stage task.lockId = stage

/-- The tasks that came before. -/
def arrival (roster : Roster) (task : QueuedTask) : Nat := roster.locks.idxOf task.lockId

/-- Ready earlier, or at the same time and here earlier. -/
def precedes (roster : Roster) (first second : QueuedTask) : Bool :=
  if first.readyAt = second.readyAt then roster.arrival first ≤ roster.arrival second
  else first.readyAt.le second.readyAt

def due (roster : Roster) (now : Instant) : List QueuedTask :=
  ((roster.staged .pending).filter fun task => task.readyAt.le now).mergeSort roster.precedes

def enqueue (roster : Roster) (request : TaskRequest) (readyAt : Instant) : Roster × String :=
  let lockId := Queue.lockName (roster.tasks.length + 1)
  (⟨roster.tasks ++ [⟨lockId, request, readyAt⟩], Function.update roster.stage lockId .pending⟩,
    lockId)

def poll (roster : Roster) (now : Instant) (limit : Nat) : Roster × List QueuedTask :=
  let taken := (roster.due now).take limit
  ({ roster with
      stage := fun lockId =>
        if lockId ∈ taken.map QueuedTask.lockId then .delivered else roster.stage lockId }, taken)

def markDone (roster : Roster) (lockId : String) : Except StoreError Roster :=
  if lockId ∈ (roster.staged .delivered).map QueuedTask.lockId then
    .ok { roster with stage := Function.update roster.stage lockId .released }
  else .error (.notFound lockId)

def step (roster : Roster) : QueueStep → Roster × QueueAnswer
  | .enqueue request readyAt =>
      let (after, lockId) := roster.enqueue request readyAt
      (after, .lock lockId)
  | .poll now limit =>
      let (after, tasks) := roster.poll now limit
      (after, .tasks tasks)
  | .markDone lockId =>
      match roster.markDone lockId with
      | .ok after => (after, .done)
      | .error error => (roster, .failed error)

end Roster

/-- Makes the steps one after the other, and lists the answers. -/
def QueueStep.run {State : Type} (step : State → QueueStep → State × QueueAnswer) (state : State) :
    List QueueStep → State × List QueueAnswer
  | [] => (state, [])
  | first :: rest =>
      let (after, answer) := step state first
      let (last, answers) := run step after rest
      (last, answer :: answers)

namespace Roster

theorem mem_staged {roster : Roster} {stage : Stage} {task : QueuedTask} :
    task ∈ roster.staged stage ↔ task ∈ roster.tasks ∧ roster.stage task.lockId = stage := by
  simp [staged]

/-- The locks of the tasks are numbered in the order of arrival. -/
def Numbered (roster : Roster) : Prop :=
  roster.locks = (List.range roster.tasks.length).map fun index => Queue.lockName (index + 1)

namespace Numbered

variable {roster : Roster}

theorem nodup (numbered : roster.Numbered) : roster.locks.Nodup := by
  rw [numbered]
  apply List.nodup_range.map
  intro left right same
  have next := Queue.lockName_injective same
  omega

theorem eq_of_lockId (numbered : roster.Numbered) {first second : QueuedTask}
    (one : first ∈ roster.tasks) (other : second ∈ roster.tasks)
    (same : first.lockId = second.lockId) : first = second :=
  List.inj_on_of_nodup_map numbered.nodup one other same

theorem nodup_tasks (numbered : roster.Numbered) : roster.tasks.Nodup :=
  .of_map QueuedTask.lockId numbered.nodup

theorem nodup_locks (numbered : roster.Numbered) {tasks : List QueuedTask} (distinct : tasks.Nodup)
    (among : ∀ task ∈ tasks, task ∈ roster.tasks) : (tasks.map QueuedTask.lockId).Nodup := by
  apply List.Nodup.map_on _ distinct
  intro first one second other same
  exact numbered.eq_of_lockId (among first one) (among second other) same

theorem fresh (numbered : roster.Numbered) :
    Queue.lockName (roster.tasks.length + 1) ∉ roster.locks := by
  rw [numbered]
  intro member
  obtain ⟨index, bound, same⟩ := List.mem_map.mp member
  have number := Queue.lockName_injective same
  rw [List.mem_range] at bound
  omega

end Numbered

theorem precedes_total (roster : Roster) (first second : QueuedTask) :
    (roster.precedes first second || roster.precedes second first) = true := by
  rw [Bool.or_eq_true]
  by_cases same : first.readyAt = second.readyAt
  · simp only [precedes, same, if_true, decide_eq_true_eq]
    omega
  · simp only [precedes, if_neg same, if_neg (Ne.symm same)]
    exact Instant.le_total first.readyAt second.readyAt

theorem precedes_trans (roster : Roster) (first second third : QueuedTask)
    (early : roster.precedes first second = true) (late : roster.precedes second third = true) :
    roster.precedes first third = true := by
  by_cases same : first.readyAt = second.readyAt
  · by_cases again : second.readyAt = third.readyAt
    · simp only [precedes, same, again, if_true, decide_eq_true_eq] at early late ⊢
      omega
    · simp only [precedes, same, if_neg again] at late ⊢
      exact late
  · simp only [precedes, if_neg same] at early
    by_cases again : second.readyAt = third.readyAt
    · rw [again] at early same
      simp only [precedes, if_neg same]
      exact early
    · simp only [precedes, if_neg again] at late
      have apart : first.readyAt ≠ third.readyAt := by
        rintro equal
        rw [equal] at early
        exact again (Instant.le_antisymm late early)
      simp only [precedes, if_neg apart]
      exact Instant.le_trans early late

theorem precedes_antisymm {roster : Roster} (numbered : roster.Numbered) {first second : QueuedTask}
    (one : first ∈ roster.tasks) (other : second ∈ roster.tasks)
    (early : roster.precedes first second = true) (late : roster.precedes second first = true) :
    first = second := by
  by_cases same : first.readyAt = second.readyAt
  · simp only [precedes, same, if_true, decide_eq_true_eq] at early late
    have member : first.lockId ∈ roster.locks := List.mem_map_of_mem one
    exact numbered.eq_of_lockId one other
      ((List.idxOf_inj member).mp (Nat.le_antisymm early late))
  · simp only [precedes, if_neg same, if_neg (Ne.symm same)] at early late
    exact absurd (Instant.le_antisymm early late) same

variable {roster : Roster}

theorem nodup_staged (numbered : roster.Numbered) (stage : Stage) : (roster.staged stage).Nodup :=
  numbered.nodup_tasks.filter _

-- Tasks of a roster go by their locks.
theorem lockId_mem_iff (numbered : roster.Numbered) {tasks : List QueuedTask} {task : QueuedTask}
    (among : ∀ other ∈ tasks, other ∈ roster.tasks) (member : task ∈ roster.tasks) :
    task.lockId ∈ tasks.map QueuedTask.lockId ↔ task ∈ tasks := by
  constructor
  · intro found
    obtain ⟨other, inside, same⟩ := List.mem_map.mp found
    exact numbered.eq_of_lockId (among other inside) member same ▸ inside
  · exact List.mem_map_of_mem

theorem mem_due {now : Instant} {task : QueuedTask} :
    task ∈ roster.due now ↔ task ∈ roster.staged .pending ∧ task.readyAt.le now = true := by
  rw [due, (List.mergeSort_perm _ _).mem_iff, List.mem_filter]

theorem nodup_due (numbered : roster.Numbered) (now : Instant) : (roster.due now).Nodup :=
  (List.mergeSort_perm _ _).nodup_iff.mpr ((nodup_staged numbered .pending).filter _)

theorem pending_of_mem_poll {now : Instant} {limit : Nat} {task : QueuedTask}
    (taken : task ∈ (roster.poll now limit).2) : task ∈ roster.staged .pending :=
  (mem_due.mp (List.mem_of_mem_take taken)).1

theorem stage_enqueue (roster : Roster) (request : TaskRequest) (readyAt : Instant) :
    (roster.enqueue request readyAt).1.stage =
      Function.update roster.stage (Queue.lockName (roster.tasks.length + 1)) .pending := rfl

theorem locks_enqueue (roster : Roster) (request : TaskRequest) (readyAt : Instant) :
    (roster.enqueue request readyAt).1.locks =
      roster.locks ++ [Queue.lockName (roster.tasks.length + 1)] := by
  rw [enqueue, locks, List.map_append]
  rfl

theorem arrival_enqueue {task : QueuedTask} (member : task ∈ roster.tasks) (request : TaskRequest)
    (readyAt : Instant) :
    (roster.enqueue request readyAt).1.arrival task = roster.arrival task := by
  rw [arrival, locks_enqueue]
  exact List.idxOf_append_of_mem (List.mem_map_of_mem member)

theorem arrival_lt {task : QueuedTask} (member : task ∈ roster.tasks) :
    roster.arrival task < roster.tasks.length := by
  have found : task.lockId ∈ roster.locks := List.mem_map_of_mem member
  have bound := List.idxOf_lt_length_iff.mpr found
  rwa [locks, List.length_map] at bound

-- The new task is pending, and no other task has its lock.
theorem staged_enqueue (numbered : roster.Numbered) (request : TaskRequest) (readyAt : Instant)
    (stage : Stage) :
    (roster.enqueue request readyAt).1.staged stage =
      roster.staged stage ++
        if stage = .pending then [⟨Queue.lockName (roster.tasks.length + 1), request, readyAt⟩]
        else [] := by
  have kept : ∀ task ∈ roster.tasks,
      decide ((roster.enqueue request readyAt).1.stage task.lockId = stage) =
        decide (roster.stage task.lockId = stage) := by
    intro task member
    have other : task.lockId ≠ Queue.lockName (roster.tasks.length + 1) := by
      intro same
      exact numbered.fresh (same ▸ List.mem_map_of_mem member)
    rw [stage_enqueue, Function.update_of_ne other]
  rw [staged, staged, ← List.filter_congr kept, stage_enqueue]
  cases stage <;> simp [enqueue]

theorem stage_of_taken {now : Instant} {limit : Nat} {task : QueuedTask}
    (taken : task ∈ (roster.poll now limit).2) :
    (roster.poll now limit).1.stage task.lockId = .delivered :=
  if_pos (List.mem_map_of_mem taken)

theorem stage_of_untaken (numbered : roster.Numbered) {now : Instant} {limit : Nat}
    {task : QueuedTask} (member : task ∈ roster.tasks) (left : task ∉ (roster.poll now limit).2) :
    (roster.poll now limit).1.stage task.lockId = roster.stage task.lockId := by
  apply if_neg
  rw [lockId_mem_iff numbered _ member]
  · exact left
  · intro other taken
    exact (mem_staged.mp (pending_of_mem_poll taken)).1

-- A poll delivers what it takes and leaves every other task where it is.
theorem mem_staged_poll (numbered : roster.Numbered) {now : Instant} {limit : Nat}
    {task : QueuedTask} {stage : Stage} :
    task ∈ (roster.poll now limit).1.staged stage ↔
      task ∈ (roster.poll now limit).2 ∧ stage = .delivered ∨
        task ∉ (roster.poll now limit).2 ∧ task ∈ roster.staged stage := by
  by_cases taken : task ∈ (roster.poll now limit).2
  · have before := (mem_staged.mp (pending_of_mem_poll taken)).1
    have member : task ∈ (roster.poll now limit).1.tasks := before
    simp only [mem_staged, stage_of_taken taken, taken, member, true_and, not_true, false_and,
      or_false]
    exact eq_comm
  · simp only [taken, false_and, false_or, not_false_iff, true_and, mem_staged]
    apply and_congr_right
    intro member
    rw [stage_of_untaken numbered member taken]

-- What is delivered has been taken before.
theorem not_taken_of_delivered {now : Instant} {limit : Nat} {task : QueuedTask}
    (delivered : task ∈ roster.staged .delivered) : task ∉ (roster.poll now limit).2 := by
  intro taken
  have stands := (mem_staged.mp delivered).2
  rw [(mem_staged.mp (pending_of_mem_poll taken)).2] at stands
  cases stands

theorem staged_poll (numbered : roster.Numbered) (now : Instant) (limit : Nat) :
    (roster.staged .delivered ++ (roster.poll now limit).2).Perm
      ((roster.poll now limit).1.staged .delivered) := by
  have after : (roster.poll now limit).1.Numbered := numbered
  have distinct : (roster.staged .delivered ++ (roster.poll now limit).2).Nodup :=
    (nodup_staged numbered .delivered).append
      ((nodup_due numbered now).sublist (List.take_sublist limit _))
      fun _ delivered => not_taken_of_delivered delivered
  apply (List.perm_ext_iff_of_nodup distinct (nodup_staged after .delivered)).mpr
  intro task
  rw [mem_staged_poll numbered, List.mem_append]
  constructor
  · rintro (delivered | taken)
    · exact .inr ⟨not_taken_of_delivered delivered, delivered⟩
    · exact .inl ⟨taken, rfl⟩
  · rintro (⟨taken, _⟩ | ⟨_, delivered⟩)
    · exact .inr taken
    · exact .inl delivered

def arrivals (roster : Roster) : List (TaskRequest × Instant) :=
  roster.tasks.map fun task => (task.request, task.readyAt)

theorem step_arrivals (roster : Roster) (step : QueueStep) :
    (roster.step step).1.arrivals = roster.arrivals ++ step.arrival?.toList ∧
      (roster.step step).1.locks = roster.locks ++ (roster.step step).2.lock?.toList := by
  cases step with
  | enqueue request readyAt =>
      refine ⟨?_, roster.locks_enqueue request readyAt⟩
      rw [step, arrivals, enqueue, List.map_append]
      rfl
  | poll now limit => exact ⟨(List.append_nil _).symm, (List.append_nil _).symm⟩
  | markDone lockId =>
      rw [step, markDone]
      by_cases delivered : lockId ∈ (roster.staged .delivered).map QueuedTask.lockId
      · rw [if_pos delivered]
        exact ⟨(List.append_nil _).symm, (List.append_nil _).symm⟩
      · rw [if_neg delivered]
        exact ⟨(List.append_nil _).symm, (List.append_nil _).symm⟩

theorem run_arrivals (roster : Roster) (steps : List QueueStep) :
    (QueueStep.run step roster steps).1.arrivals =
        roster.arrivals ++ steps.filterMap QueueStep.arrival? ∧
      (QueueStep.run step roster steps).1.locks =
        roster.locks ++ (QueueStep.run step roster steps).2.filterMap QueueAnswer.lock? := by
  induction steps generalizing roster with
  | nil => exact ⟨(List.append_nil _).symm, (List.append_nil _).symm⟩
  | cons first rest ih =>
      obtain ⟨arrivals, locks⟩ := ih (roster.step first).1
      obtain ⟨arrival, lock⟩ := roster.step_arrivals first
      rw [QueueStep.run, arrivals, locks, arrival, lock, List.append_assoc, List.append_assoc]
      simp only [List.filterMap_cons]
      constructor
      · cases first.arrival? <;> rfl
      · cases (roster.step first).2.lock? <;> rfl

end Roster

end Resumable
