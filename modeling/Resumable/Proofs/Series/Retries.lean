import Resumable.Proofs.Series.Turns

/-!
Series of calls of one retry. The counter in its scope tells how often the retry has suspended the
task since it last succeeded; the next suspension waits for as long as that number says. What the
operation suspends with itself, and errors that are final already, pass through and do not count.
-/

namespace Resumable.Series

variable {World α : Type}

/-- What a retry that has suspended so often makes of an answer, in a turn that leaves this
document; last, how often it has suspended then. -/
inductive Responds (retry : Retry) (count : Nat) (left : Document) :
    Except TaskError α → Except TaskError α → Nat → Prop where
  | succeeded (value : α) : Responds retry count left (.ok value) (.ok value) 0
  | passed {error : TaskError} (final : Retry.failure? error = none) :
      Responds retry count left (.error error) (.error error) count
  | gaveUp {error : TaskError} {failure : Failure} (found : Retry.failure? error = some failure)
      (selective : retry.predicates ≠ [])
      (unmatched : ∀ predicate ∈ retry.predicates, predicate failure = false) :
      Responds retry count left (.error error)
        (.error (.failed (retry.message failure) failure)) count
  | retried {error : TaskError} {failure : Failure} (found : Retry.failure? error = some failure)
      (admitted : retry.predicates = [] ∨
        ∃ predicate ∈ retry.predicates, predicate failure = true) :
      Responds retry count left (.error error)
        (.error (.suspended (.of (retry.interval.backoff (min count maxCount) Retry.base) left)))
        (count + 1)

/-- A turn of a retry that has suspended so often before, and so often after. The operation is
called once. Besides the counter and the scope of the operation, which is as the operation left it,
the document stays as it was. -/
structure Retried (retry : Retry) (path : List String) (count next : Nat) (turn : Turn α α)
    (answer : Answer α) : Prop where
  answered : turn.answers = [answer]
  responds : Responds retry count turn.left answer.result turn.result next
  counted : turn.left.memberAt (path ++ [retry.key]) "retry" = counter next
  operation : turn.left.memberAt (path ++ [retry.key]) "operation" = some (.object answer.scope)
  same : Document.SameBut (path ++ [retry.key]) ["retry", "operation"] turn.given turn.left

theorem admits_iff (retry : Retry) (failure : Failure) :
    retry.admits failure = true ↔ retry.predicates = [] ∨
      ∃ predicate ∈ retry.predicates, predicate failure = true := by
  simp [Retry.admits]

theorem refuses_iff (retry : Retry) (failure : Failure) :
    retry.admits failure = false ↔ retry.predicates ≠ [] ∧
      ∀ predicate ∈ retry.predicates, predicate failure = false := by
  simp [Retry.admits]

theorem isSuspended_of_failure {error : TaskError} {failure : Failure}
    (found : Retry.failure? error = some failure) : error.isSuspended = false := by
  cases error with
  | suspended suspension => cases found
  | _ => rfl

-- The number after a turn is what the turn adds to the number before.
theorem Retried.next_eq {retry : Retry} {path : List String} {next : Nat}
    {turn : Turn α α} {answer : Answer α} {before : List (Turn α α)}
    (retried : Retried retry path (countSince Turn.suspends before) next turn answer) :
    countSince Turn.suspends (before ++ [turn]) = next := by
  have responds := retried.responds
  rw [countSince_concat, Turn.succeeds, Turn.suspends, retried.answered]
  simp only [List.any_cons, List.any_nil, Bool.or_false]
  generalize turn.result = result, answer.result = shown at responds
  cases responds with
  | succeeded value => rfl
  | passed final =>
      simp only [isSuspension, Bool.and_not_self]
      rfl
  | gaveUp found _ _ => rfl
  | retried found _ =>
      simp only [isSuspension, isSuspended_of_failure found]
      rfl

theorem Retried.of_inner {retry : Retry} {path : List String} {document inner : Document}
    {count next : Nat} {clock : Clock} {answer : Answer α} {result : Except TaskError α}
    (responds : Responds retry count (document.setWithin (path ++ [retry.key]) inner) answer.result
      result next)
    (counted : Table.get? "retry" inner = counter next)
    (kept : ∀ key, key ≠ "retry" → Table.get? key inner =
      Table.get? key ((document.within (path ++ [retry.key])).setChild "operation" answer.scope)) :
    Retried retry path count next
      ⟨clock, document, [answer], result, document.setWithin (path ++ [retry.key]) inner⟩
      answer where
  answered := rfl
  responds := responds
  counted := by rw [Document.memberAt_setWithin, counted]
  operation := by
    rw [Document.memberAt_setWithin, kept "operation" (by decide), Document.setChild,
      Table.get?_insert_self]
  same := by
    have member : "retry" ∈ ["retry", "operation"] := List.mem_cons_self
    apply Document.sameBut_setWithin member
    intro key other
    rw [List.mem_cons, List.mem_singleton, not_or] at other
    rw [kept key other.1, Document.get?_setChild_of_ne other.2]

theorem retry_turn (retry : Retry) (path : List String) (call : Call World α)
    {document : Document} {count : Nat}
    (counted : document.memberAt (path ++ [retry.key]) "retry" = counter count) :
    ∃ next answer, Retried retry path count next (turn path retry.run call document) answer := by
  obtain ⟨result, inner, ran, same⟩ := turn_nested path retry.key retry.attempt call document
  change turn path retry.run call document = _ at same
  rw [same]
  rw [Document.memberAt_eq] at counted
  have untouched (scope : Document) : Table.get? "retry"
      ((document.within (path ++ [retry.key])).setChild "operation" scope) = counter count := by
    rw [Document.get?_setChild_of_ne (by decide), counted]
  cases Retry.attempted ran with
  | @succeeded value after called =>
      obtain ⟨scope, left, events⟩ := nested_watching called
      refine ⟨0, ⟨.ok value, scope⟩, ?_⟩
      rw [events]
      refine .of_inner (.succeeded value) (Table.get?_erase_self "retry" after.here) ?_
      intro key other
      rw [Table.get?_erase_of_ne other, left]
      rfl
  | @passed error after called final =>
      obtain ⟨scope, left, events⟩ := nested_watching called
      refine ⟨count, ⟨.error error, scope⟩, ?_⟩
      rw [events, left]
      exact .of_inner (.passed final) (untouched scope) fun _ _ => rfl
  | @gaveUp error failure after called found refused =>
      obtain ⟨scope, left, events⟩ := nested_watching called
      obtain ⟨selective, unmatched⟩ := (refuses_iff retry failure).mp refused
      refine ⟨count, ⟨.error error, scope⟩, ?_⟩
      rw [events, left]
      exact .of_inner (.gaveUp found selective unmatched) (untouched scope) fun _ _ => rfl
  | @uncounted error failure problem after called found admitted unread =>
      obtain ⟨scope, left, events⟩ := nested_watching called
      rw [left, Call.here_frame, getOr_counter (untouched scope)] at unread
      cases unread
  | @retried error failure attempts after called found admitted read =>
      obtain ⟨scope, left, events⟩ := nested_watching called
      rw [left, Call.here_frame, getOr_counter (untouched scope)] at read
      cases read
      refine ⟨count + 1, ⟨.error error, scope⟩, ?_⟩
      rw [events, Place.root_descend]
      refine .of_inner (.retried found ((admits_iff retry failure).mp admitted)) ?_ ?_
      · rw [Retry.counted, Table.get?_insert_self, counter_succ]
      · intro key other
        rw [Retry.counted, Table.get?_insert_of_ne other, left]
        rfl

/-- In a series of calls, the counter of a retry is at each turn the number of times that the retry
has suspended since it last succeeded, before the turn and after it. -/
theorem retries_follow_history (retry : Retry) (path : List String) (document : Document)
    (calls : List (Call World α)) {before after : List (Turn α α)} {now : Turn α α}
    (fresh : document.memberAt (path ++ [retry.key]) "retry" = none)
    (split : turns path retry.run document calls = before ++ now :: after) :
    now.given.memberAt (path ++ [retry.key]) "retry" = counter (countSince Turn.suspends before) ∧
      ∃ answer, Retried retry path (countSince Turn.suspends before)
        (countSince Turn.suspends (before ++ [now])) now answer := by
  have start : document.memberAt (path ++ [retry.key]) "retry" =
      counter (countSince Turn.suspends ([] : List (Turn α α))) := fresh
  obtain ⟨call, same, counted⟩ := turns_split
    (fun turns document =>
      document.memberAt (path ++ [retry.key]) "retry" = counter (countSince Turn.suspends turns))
    (fun earlier call document counted => by
      obtain ⟨next, answer, retried⟩ := retry_turn retry path call counted
      rw [retried.next_eq]
      exact retried.counted) start split
  rw [List.nil_append] at counted
  obtain ⟨next, answer, retried⟩ := retry_turn retry path call counted
  rw [← same] at retried
  refine ⟨counted, answer, ?_⟩
  rwa [retried.next_eq]

/-- Fetches as long as the server is busy. -/
def fetch : Retry :=
  { Retry.withKey "fetch" with
    predicates := [fun failure => match failure with
      | .http status => status == 503
      | _ => false] }

def fetching (operation : Action Unit Bool) : Call Unit Bool := ⟨operation, .empty, [], ⟨0⟩, ()⟩

def busy : Call Unit Bool := fetching (Action.fail (.other (.http 503)))

/-- The operation suspends the task itself. -/
def queued : Call Unit Bool := fetching (Action.suspend 60)

def fetched : List (Turn Bool Bool) := turns ["job"] fetch.run [] [busy, queued, busy]

/-- Of three turns the second passes on a suspension of the operation; the third is the retry's
second suspension. -/
theorem inner_suspension_is_not_counted :
    ∃ now, fetched = fetched.take 2 ++ [now] ∧
      now.given.memberAt ["job", "fetch"] "retry" = some (.nat 1) ∧
      ∃ answer, Retried fetch ["job"] 1 2 now answer := by
  have split : fetched = fetched.take 2 ++ [fetched[2]] := by rfl
  obtain ⟨counted, answer, retried⟩ := retries_follow_history fetch ["job"] [] _ rfl split
  have once : countSince Turn.suspends (fetched.take 2) = 1 := by decide +kernel
  have twice : countSince Turn.suspends (fetched.take 2 ++ [fetched[2]]) = 2 := by decide +kernel
  rw [once] at counted retried
  rw [twice] at retried
  exact ⟨_, split, counted, answer, retried⟩

end Resumable.Series
