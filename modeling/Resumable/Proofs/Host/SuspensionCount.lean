import Resumable.Proofs.Host.Driven

/-!
The count that the record of an attempt keeps. A record is made at the first suspension, with no
suspensions counted, and counts the later ones; so it is always behind by one.
-/

namespace Resumable

variable {World : Type}

/-- In each session of a driven host the record of an attempt counts all of its suspensions since it
was submitted but the first, those by its own code and the retries of the whole task alike. -/
theorem record_counts_all_but_first {session : HostSession World} {ledger : Ledger}
    (driven : Driven session ledger) {attemptId : String} {record : StateRecord}
    (found : Table.get? attemptId session.host.store = some record) :
    ∃ life, ledger attemptId = some life ∧ record.suspensions + 1 = life.suspensions.length := by
  have filed := driven.inStep.filed attemptId
  rw [found] at filed
  exact filed.count

/-- The note has been waited for once, and its record counts no suspension. -/
theorem first_suspension_is_not_counted :
    Driven (noteRun noteSteps).1 (noteRun noteSteps).2 ∧
      ∃ record life, Table.get? "attempt-1" (noteRun noteSteps).1.host.store = some record ∧
        (noteRun noteSteps).2 "attempt-1" = some life ∧ life.suspensions.length = 1 ∧
        record.suspensions = 0 := by
  have submitted := (Driven.start 0 ()).step noteOperator (.submit noteRequest) rfl
  have polled := submitted.step noteOperator (.poll 1) trivial
  have suspended := polled.step noteOperator (.invoke 0 false) rfl
  have waited := suspended.step noteOperator (.advance (.ofSeconds 5)) trivial
  exact ⟨waited.step noteOperator (.poll 1) trivial, _, _, rfl, rfl, rfl, rfl⟩

/-- Waits once, and then fails as long as it is retried. -/
def stubbornOperator : Operator Unit where
  run _ _ := do
    match ← Action.get .bool "seen" with
    | none =>
        Action.set .bool "seen" true
        Action.suspend 5
    | some _ => Action.fail (.other (.http 503))
  resetKeys := []
  retryByDefault := true

def stubbornSteps : List HostStep :=
  [.submit noteRequest, .poll 1, .invoke 0 false, .advance (.ofSeconds 5), .poll 1,
    .invoke 0 false]

def stubbornRun : HostSession Unit × Ledger :=
  stubbornSteps.foldl
    (fun run step =>
      ((run.1.step stubbornOperator step).2, run.2.after stubbornOperator run.1 step))
    (.start 0 (), .empty)

/-- Of a suspension by the operator itself and a retry of the whole task, one is counted. -/
theorem retried_attempt_counts_one :
    Driven stubbornRun.1 stubbornRun.2 ∧
      (stubbornRun.2 "attempt-1").map (fun life => life.suspensions.length) = some 2 ∧
      ∃ record, Table.get? "attempt-1" stubbornRun.1.host.store = some record ∧
        record.suspensions = 1 := by
  have submitted := (Driven.start 0 ()).step stubbornOperator (.submit noteRequest) rfl
  have suspended := (submitted.step stubbornOperator (.poll 1) trivial).step stubbornOperator
    (.invoke 0 false) rfl
  have waited := suspended.step stubbornOperator (.advance (.ofSeconds 5)) trivial
  have driven : Driven stubbornRun.1 stubbornRun.2 :=
    (waited.step stubbornOperator (.poll 1) trivial).step stubbornOperator (.invoke 0 false) rfl
  have twice : (stubbornRun.2 "attempt-1").map (fun life => life.suspensions.length) = some 2 := by
    rfl
  have found : Table.get? "attempt-1" stubbornRun.1.host.store = some _ := rfl
  obtain ⟨life, live, count⟩ := record_counts_all_but_first driven found
  have length : life.suspensions.length = 2 := by
    rw [live] at twice
    exact Option.some.inj twice
  rw [length] at count
  exact ⟨driven, twice, _, found, Nat.succ.inj count⟩

end Resumable
