import Mathlib.Logic.Function.Basic
import Resumable.Host.Session
import Resumable.Proofs.Host.Invocation

/-!
The ledger of a driven host. It keeps, for each live attempt, the request as it was submitted and
the documents of its suspensions; it knows neither store nor queue. Each live attempt is to have one
task, with the request that its next invocation runs on, and once it has suspended one record.
-/

namespace Resumable

variable {World : Type}

structure Life where
  submitted : TaskRequest
  /-- The documents of its suspensions, the last one first. -/
  suspensions : List Document

namespace Life

def document (life : Life) : Document := life.suspensions.head?.getD life.submitted.lastStateParams

def current (life : Life) : TaskRequest := life.submitted.withState life.document

/-- The attempt after an invocation; it is over unless it was suspended. -/
def after (life : Life) : Except TaskFailure (Outcome TaskResult) → Option Life
  | .ok (.suspended suspension) =>
      some { life with suspensions := suspension.state :: life.suspensions }
  | _ => none

end Life

abbrev Ledger := String → Option Life

namespace Ledger

def empty : Ledger := fun _ => none

/-- Submissions are of attempts that are not live, and a delivered task is invoked once. -/
def Admits (ledger : Ledger) : HostStep → Prop
  | .submit request => ledger request.attemptId = none
  | .poll _ | .advance _ | .setClock _ => True
  | .invoke _ keep => keep = false
  | _ => False

/-- The ledger after a step. Of the host it takes the task that is meant, the clock, the world. -/
def after (ledger : Ledger) (operator : Operator World) (session : HostSession World) :
    HostStep → Ledger
  | .submit request => Function.update ledger request.attemptId (some ⟨request, []⟩)
  | .invoke index _ =>
      match session.held[index]? with
      | none => ledger
      | some task =>
          Function.update ledger task.request.attemptId <|
            (ledger task.request.attemptId).bind fun life =>
              life.after
                (operator.invoke life.current session.host.clock session.host.world).outcome
  | _ => ledger

end Ledger

inductive Driven : HostSession World → Ledger → Prop where
  | start (millis : Int) (world : World) : Driven (.start millis world) .empty
  | step {session : HostSession World} {ledger : Ledger} (driven : Driven session ledger)
      (operator : Operator World) (step : HostStep) (admitted : ledger.Admits step) :
      Driven (session.step operator step).2 (ledger.after operator session step)

/-! Queue entries and live attempts. -/

def requestsOf (attemptId : String) (tasks : List QueuedTask) : List TaskRequest :=
  (tasks.map QueuedTask.request).filter fun request => request.attemptId = attemptId

/-- Each live attempt has one task, with its current request; there are no other tasks. -/
def Entered (ledger : Ledger) (tasks : List QueuedTask) : Prop :=
  ∀ attemptId, requestsOf attemptId tasks = ((ledger attemptId).map Life.current).toList

theorem Life.attemptId_current (life : Life) :
    life.current.attemptId = life.submitted.attemptId := rfl

namespace Entered

variable {ledger : Ledger} {tasks : List QueuedTask}

theorem perm (entered : Entered ledger tasks) {others : List QueuedTask}
    (same : others.Perm tasks) : Entered ledger others := by
  intro attemptId
  have requests : (requestsOf attemptId others).Perm (requestsOf attemptId tasks) :=
    (same.map QueuedTask.request).filter _
  rw [entered attemptId] at requests
  cases live : ledger attemptId with
  | none =>
      rw [live] at requests
      exact requests.eq_nil
  | some life =>
      rw [live] at requests
      exact List.perm_singleton.mp requests

-- An attempt that is not live is entered with a task of its own.
theorem enter (entered : Entered ledger tasks) (life : Life) (task : QueuedTask)
    (current : task.request = life.current) (idle : ledger task.request.attemptId = none) :
    Entered (Function.update ledger task.request.attemptId (some life)) (task :: tasks) := by
  intro attemptId
  rw [requestsOf, List.map_cons, List.filter_cons]
  by_cases same : task.request.attemptId = attemptId
  · subst same
    have others := entered task.request.attemptId
    rw [requestsOf, idle] at others
    rw [if_pos (by simp), others, Function.update_self, current]
    rfl
  · rw [if_neg (by simpa using same), Function.update_of_ne (Ne.symm same)]
    exact entered attemptId

-- A task that is taken out is the one of a live attempt.
theorem take {task : QueuedTask} (entered : Entered ledger (task :: tasks)) :
    ∃ life, ledger task.request.attemptId = some life ∧ task.request = life.current ∧
      Entered (Function.update ledger task.request.attemptId none) tasks := by
  have own := entered task.request.attemptId
  rw [requestsOf, List.map_cons, List.filter_cons_of_pos (by simp)] at own
  cases live : ledger task.request.attemptId with
  | none => simp [live] at own
  | some life =>
      simp only [live, Option.map_some, Option.toList_some, List.cons.injEq] at own
      refine ⟨life, rfl, own.1, fun attemptId => ?_⟩
      by_cases same : task.request.attemptId = attemptId
      · subst same
        rw [Function.update_self]
        exact own.2
      · have other := entered attemptId
        rw [requestsOf, List.map_cons, List.filter_cons_of_neg (by simpa using same)] at other
        rw [Function.update_of_ne (Ne.symm same)]
        exact other

end Entered

/-! Records and live attempts. -/

/-- The record of an attempt: there is one once the attempt has suspended, with the document of its
last suspension. -/
def Filed (attemptId : String) (life : Option Life) (record : Option StateRecord) : Prop :=
  match life.elim [] Life.suspensions with
  | [] => record = none
  | state :: earlier => ∃ updatedAt, record = some ⟨attemptId, state, earlier.length, updatedAt⟩

namespace Filed

variable {attemptId : String} {life : Life} {record : Option StateRecord}

theorem state (filed : Filed attemptId (some life) record) :
    record.map StateRecord.state = life.suspensions.head? := by
  obtain ⟨submitted, suspensions⟩ := life
  cases suspensions with
  | nil =>
      obtain rfl : record = none := filed
      rfl
  | cons state earlier =>
      obtain ⟨updatedAt, rfl⟩ := filed
      rfl

-- The count of a record starts with the second suspension.
theorem count {lived : Option Life} {found : StateRecord}
    (filed : Filed attemptId lived (some found)) :
    ∃ life, lived = some life ∧ found.suspensions + 1 = life.suspensions.length := by
  cases lived with
  | none => cases filed
  | some life =>
      obtain ⟨submitted, suspensions⟩ := life
      cases suspensions with
      | nil => cases filed
      | cons state earlier =>
          obtain ⟨updatedAt, same⟩ := filed
          cases same
          exact ⟨_, rfl, rfl⟩

theorem recordAfter {host : Host World}
    (filed : Filed attemptId (some life) (Table.get? attemptId host.store)) (document : Document)
    (now : Instant) :
    host.recordAfter attemptId document now =
      ⟨attemptId, document, life.suspensions.length, now⟩ := by
  obtain ⟨submitted, suspensions⟩ := life
  cases suspensions with
  | nil =>
      have absent : Table.get? attemptId host.store = none := filed
      rw [Host.recordAfter, absent]
      rfl
  | cons state earlier =>
      obtain ⟨updatedAt, found⟩ := filed
      rw [Host.recordAfter, found]
      rfl

end Filed

end Resumable
