import Mathlib.Data.List.Nodup
import Resumable.Host.Queue
import Resumable.Proofs.Table
import Std.Data.String.ToNat

/-!
The queue seen by a client that holds the tasks it was given and has not released yet. No task is
lost and none is in two places: polling moves tasks from the pending ones to the held ones, and the
table of delivered tasks has exactly the held ones under their locks.
-/

namespace Resumable

namespace QueuedTask

theorem insertByReady_perm (task : QueuedTask) (tasks : List QueuedTask) :
    (insertByReady task tasks).Perm (task :: tasks) := by
  induction tasks with
  | nil => exact .refl _
  | cons first rest ih =>
      rw [insertByReady]
      split
      · exact .refl _
      · exact (ih.cons first).trans (.swap task first rest)

theorem sortByReady_perm (tasks : List QueuedTask) : (sortByReady tasks).Perm tasks := by
  induction tasks with
  | nil => exact .refl _
  | cons task rest ih => exact (insertByReady_perm task (sortByReady rest)).trans (ih.cons task)

end QueuedTask

namespace Queue

theorem lockName_injective {left right : Nat} (same : lockName left = lockName right) :
    left = right := by
  have texts : ("lock-" ++ toString left).toList = ("lock-" ++ toString right).toList :=
    congrArg String.toList same
  rw [String.toList_append, String.toList_append] at texts
  exact Nat.repr_injective (String.toList_inj.mp (List.append_cancel_left texts))

theorem ready_append_waiting (queue : Queue) (now : Instant) (limit : Nat) :
    queue.ready now limit ++ queue.waiting now limit = QueuedTask.sortByReady queue.pending := by
  have start : queue.ready now limit <+: QueuedTask.sortByReady queue.pending :=
    (List.take_prefix limit _).trans (List.takeWhile_prefix _)
  obtain ⟨rest, split⟩ := start
  rw [waiting, ← split, List.drop_left]

-- A poll takes tasks from the pending ones and changes none.
theorem poll_perm (queue : Queue) (now : Instant) (limit : Nat) :
    (queue.ready now limit ++ queue.waiting now limit).Perm queue.pending := by
  rw [ready_append_waiting]
  exact QueuedTask.sortByReady_perm queue.pending

theorem enqueue_perm (queue : Queue) (request : TaskRequest) (readyAt : Instant)
    (held : List QueuedTask) :
    ((queue.enqueue request readyAt).1.pending ++ held).Perm
      (⟨lockName (queue.issued + 1), request, readyAt⟩ :: (queue.pending ++ held)) := by
  rw [enqueue, List.append_assoc, List.singleton_append]
  exact List.perm_middle

theorem deliver_perm (queue : Queue) (now : Instant) (limit : Nat) (held : List QueuedTask) :
    ((queue.deliver now limit).pending ++ (held ++ queue.ready now limit)).Perm
      (queue.pending ++ held) := by
  have apart : (queue.waiting now limit ++ (held ++ queue.ready now limit)).Perm
      (queue.ready now limit ++ queue.waiting now limit ++ held) := by
    rw [← List.append_assoc]
    refine List.perm_append_comm.trans ?_
    rw [List.append_assoc]
  exact apart.trans ((poll_perm queue now limit).append_right held)

theorem take_perm (pending : List QueuedTask) {held : List QueuedTask} {index : Nat}
    {task : QueuedTask} (found : held[index]? = some task) :
    (task :: (pending ++ held.eraseIdx index)).Perm (pending ++ held) := by
  obtain ⟨bound, rfl⟩ := List.getElem?_eq_some_iff.mp found
  exact List.perm_middle.symm.trans
    ((List.getElem_cons_eraseIdx_perm bound).append_left pending)

def entry (task : QueuedTask) : String × QueuedTask := (task.lockId, task)

theorem keys_perm {delivered : Table QueuedTask} {held : List QueuedTask}
    (same : delivered.Perm (held.map entry)) :
    (Table.keys delivered).Perm (held.map QueuedTask.lockId) := by
  have locks : (held.map entry).map Prod.fst = held.map QueuedTask.lockId := by
    simp [entry]
  rw [← locks]
  exact same.map Prod.fst

-- Tasks with new locks are delivered next to those delivered before.
theorem foldl_insert_perm {tasks held : List QueuedTask} {delivered : Table QueuedTask}
    (same : delivered.Perm (held.map entry))
    (distinct : ((held ++ tasks).map QueuedTask.lockId).Nodup) :
    (tasks.foldl (fun delivered task => Table.insert task.lockId task delivered) delivered).Perm
      ((held ++ tasks).map entry) := by
  induction tasks generalizing held delivered with
  | nil => simpa using same
  | cons task rest ih =>
      have fresh : task.lockId ∉ Table.keys delivered := by
        rw [(keys_perm same).mem_iff]
        rw [List.map_append, List.map_cons, List.nodup_append] at distinct
        intro member
        exact distinct.2.2 _ member _ List.mem_cons_self rfl
      have next : (Table.insert task.lockId task delivered).Perm ((held ++ [task]).map entry) := by
        refine (Table.insert_perm fresh task).trans ?_
        rw [List.map_append]
        exact (same.cons _).trans (List.perm_append_singleton _ _).symm
      rw [List.foldl_cons, List.append_cons]
      rw [List.append_cons] at distinct
      exact ih next distinct

/-- What a client that holds these tasks can rely on. -/
structure Delivers (queue : Queue) (held : List QueuedTask) : Prop where
  named : ∀ task ∈ queue.pending ++ held, ∃ number, number ≤ queue.issued ∧
    task.lockId = lockName number
  distinct : ((queue.pending ++ held).map QueuedTask.lockId).Nodup
  delivered : queue.delivered.Perm (held.map entry)

theorem delivers_empty : Delivers empty [] where
  named := by simp [empty]
  distinct := by simp [empty]
  delivered := .refl _

namespace Delivers

variable {queue : Queue} {held : List QueuedTask}

-- A new task has a lock that no other task has or had.
theorem enqueue (delivers : queue.Delivers held) (request : TaskRequest) (readyAt : Instant) :
    (queue.enqueue request readyAt).1.Delivers held := by
  have moved := enqueue_perm queue request readyAt held
  constructor
  · intro task member
    rcases List.mem_cons.mp (moved.mem_iff.mp member) with rfl | earlier
    · exact ⟨queue.issued + 1, Nat.le_refl _, rfl⟩
    · obtain ⟨number, bound, name⟩ := delivers.named task earlier
      exact ⟨number, Nat.le_succ_of_le bound, name⟩
  · apply (moved.map QueuedTask.lockId).nodup_iff.mpr
    rw [List.map_cons, List.nodup_cons]
    refine ⟨fun member => ?_, delivers.distinct⟩
    obtain ⟨task, earlier, same⟩ := List.mem_map.mp member
    -- Locks go by number, and the number of the new one has not been issued before.
    obtain ⟨number, bound, name⟩ := delivers.named task earlier
    have numbers : number = queue.issued + 1 := lockName_injective (name.symm.trans same)
    omega
  · exact delivers.delivered

theorem poll (delivers : queue.Delivers held) (now : Instant) (limit : Nat) :
    (queue.deliver now limit).Delivers (held ++ queue.ready now limit) := by
  have moved := deliver_perm queue now limit held
  have distinct := (moved.map QueuedTask.lockId).nodup_iff.mpr delivers.distinct
  constructor
  · intro task member
    exact delivers.named task (moved.mem_iff.mp member)
  · exact distinct
  · apply foldl_insert_perm delivers.delivered
    rw [List.map_append] at distinct
    exact distinct.of_append_right

theorem release (delivers : queue.Delivers held) {index : Nat} {task : QueuedTask}
    (found : held[index]? = some task) :
    Delivers { queue with delivered := Table.erase task.lockId queue.delivered }
      (held.eraseIdx index) := by
  have moved := take_perm queue.pending found
  have distinct := (moved.map QueuedTask.lockId).nodup_iff.mpr delivers.distinct
  rw [List.map_cons, List.nodup_cons] at distinct
  constructor
  · intro other member
    exact delivers.named other (moved.mem_iff.mp (List.mem_cons_of_mem task member))
  · exact distinct.2
  · have whole : queue.delivered.Perm (entry task :: (held.eraseIdx index).map entry) :=
      delivers.delivered.trans ((take_perm [] found).map entry).symm
    apply Table.erase_perm whole
    rw [(keys_perm (.refl _)).mem_iff]
    intro member
    apply distinct.1
    rw [List.map_append]
    exact List.mem_append_right _ member

theorem perm {others : List QueuedTask} (delivers : queue.Delivers held) (same : held.Perm others) :
    queue.Delivers others where
  named task member := delivers.named task ((same.append_left queue.pending).mem_iff.mpr member)
  distinct :=
    ((same.append_left queue.pending).map QueuedTask.lockId).nodup_iff.mp delivers.distinct
  delivered := delivers.delivered.trans (same.map entry)

theorem has (delivers : queue.Delivers held) {task : QueuedTask} (member : task ∈ held) :
    Table.has task.lockId queue.delivered = true :=
  Table.has_of_mem (delivers.delivered.mem_iff.mpr (List.mem_map_of_mem member))

end Delivers

end Queue

end Resumable
