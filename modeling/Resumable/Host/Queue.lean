import Resumable.Host.Store

/-!
A queue of requests that wait until they are ready. A delivered request stays locked until it is
marked done.
-/

namespace Resumable

structure QueuedTask where
  lockId : String
  request : TaskRequest
  readyAt : Instant

namespace QueuedTask

def isReady (task : QueuedTask) (now : Instant) : Bool := task.readyAt.le now

def decoder : Json.Decoder QueuedTask :=
  Json.Fields.decoder "QueuedTask" <|
    QueuedTask.mk <$> .required "lock_id" .text <*> .required "request" TaskRequest.decoder <*>
      .required "ready_at" .instant

def toJson (task : QueuedTask) : Json :=
  .record
    [("lock_id", .text task.lockId), ("request", task.request.toJson),
      ("ready_at", .text task.readyAt.text)]

/-- Puts a task in front of the first one that is ready no earlier. -/
def insertByReady (task : QueuedTask) : List QueuedTask → List QueuedTask
  | [] => [task]
  | first :: rest =>
      if task.readyAt.le first.readyAt then task :: first :: rest
      else first :: insertByReady task rest

/-- Ordered by the time of readiness; tasks ready at one time keep their order. -/
def sortByReady (tasks : List QueuedTask) : List QueuedTask := tasks.foldr insertByReady []

end QueuedTask

structure Queue where
  /-- Locks given out so far. The count has no bound here; in 64 bits it would overflow at
  `2 ^ 64`. -/
  issued : Nat
  pending : List QueuedTask
  delivered : Table QueuedTask

namespace Queue

def empty : Queue := ⟨0, [], []⟩

def lockName (number : Nat) : String := s!"lock-{number}"

def enqueue (queue : Queue) (request : TaskRequest) (readyAt : Instant) : Queue × String :=
  let lockId := lockName (queue.issued + 1)
  ({ queue with
      issued := queue.issued + 1
      pending := queue.pending ++ [⟨lockId, request, readyAt⟩] }, lockId)

/-- What a poll delivers: at most `limit` tasks that are ready, those that have waited longest
first. -/
def ready (queue : Queue) (now : Instant) (limit : Nat) : List QueuedTask :=
  ((QueuedTask.sortByReady queue.pending).takeWhile fun task => task.isReady now).take limit

def waiting (queue : Queue) (now : Instant) (limit : Nat) : List QueuedTask :=
  (QueuedTask.sortByReady queue.pending).drop (queue.ready now limit).length

def deliver (queue : Queue) (now : Instant) (limit : Nat) : Queue where
  issued := queue.issued
  pending := queue.waiting now limit
  delivered := (queue.ready now limit).foldl
    (fun delivered task => Table.insert task.lockId task delivered) queue.delivered

def pollReady (queue : Queue) (now : Instant) (limit : Nat) : Queue × List QueuedTask :=
  (queue.deliver now limit, queue.ready now limit)

def markDone (queue : Queue) (lockId : String) : Except StoreError Queue :=
  if Table.has lockId queue.delivered then
    .ok { queue with delivered := Table.erase lockId queue.delivered }
  else .error (.notFound lockId)

end Queue

end Resumable
