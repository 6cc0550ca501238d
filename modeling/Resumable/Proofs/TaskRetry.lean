import Resumable.Proofs.Turn

/-!
Attempts at a task that is retried as a whole. The count of the retries lies in the document that
the operator works on, so an attempt passes it on through suspensions of the task's own, which leave
it alone, and through retries, which add one. The option allows so many retries in all, wherever
the suspensions in between lie; the failure after the last of them ends the attempt.
-/

namespace Resumable

variable {World : Type}

/-- The operator leaves the count of the retries to the policy, and hands on the whole document when
it suspends. -/
structure Operator.SparesCount (operator : Operator World) : Prop where
  unwritten : ∀ name config frame,
    Table.get? RetryPolicy.countKey (operator.run name config .top frame).2.here =
      Table.get? RetryPolicy.countKey frame.here
  kept : RetryPolicy.countKey ∉ operator.resetKeys
  whole : ∀ name config frame suspension after,
    operator.run name config .top frame = (.error (.suspended suspension), after) →
      suspension.state = after.here

namespace TaskRetry

/-- The suspension that answers a failure after so many retries: it carries the document that the
turn was given, with the reset keys dropped and one retry more. -/
structure Retries (turn : Turn World) (policy : RetryPolicy) (count : Nat) (error : TaskError)
    (suspension : Suspension) : Prop where
  outcome : turn.outcome = .ok (.suspended suspension)
  cause : suspension.cause = some error.document
  interval : suspension.retryIntervalSeconds = { policy with count := count }.nextInterval
  counted : Table.get? RetryPolicy.countKey suspension.state = some (.nat (count + 1))
  dropped : ∀ key ∈ turn.visit.operator.resetKeys, Table.get? key suspension.state = none
  handed : ∀ key, key ≠ RetryPolicy.countKey → key ∉ turn.visit.operator.resetKeys →
    Table.get? key suspension.state = Table.get? key turn.request.lastStateParams

/-- The document of an attempt after so many retries. -/
def Counts (count : Nat) (document : Document) : Prop :=
  Table.get? RetryPolicy.countKey document = if count = 0 then none else some (.nat count)

theorem countIn_of_counts {count : Nat} {document : Document} (counts : Counts count document)
    (small : count ≤ RetryPolicy.maxLimit) : RetryPolicy.countIn document = count := by
  by_cases zero : count = 0
  · rw [Counts, if_pos zero] at counts
    rw [RetryPolicy.countIn_eq_zero counts, zero]
  · rw [Counts, if_neg zero] at counts
    rw [RetryPolicy.countIn_eq counts, Nat.min_eq_left small]

/-- What a turn can come to after so many retries, with the document of the next one. -/
inductive Came (policy : RetryPolicy) (count : Nat) (turn : Turn World) : Prop where
  | completed (calm : turn.escaped = none) (last : turn.next = none)
  | suspended {document : Document} (calm : turn.escaped = none)
      (next : turn.next = some (turn.request.withState document)) (counts : Counts count document)
  | retried {error : TaskError} {suspension : Suspension} (fell : turn.escaped = some error)
      (room : count < policy.limit) (retries : Retries turn policy count error suspension)
      (next : turn.next = some (turn.request.withState suspension.state))
  | failed {error : TaskError} (fell : turn.escaped = some error) (full : count = policy.limit)
      (ended : turn.outcome = .error (.of error)) (last : turn.next = none)

theorem came {policy : RetryPolicy} {turn : Turn World} {count : Nat}
    (spares : turn.visit.operator.SparesCount)
    (read : RetryPolicy.prepare turn.request.config [] turn.visit.operator.retryByDefault =
      .ok policy)
    (counts : Counts count turn.request.lastStateParams) (within : count ≤ policy.limit) :
    Came policy count turn := by
  have own := RetryPolicy.prepare_recount read turn.request.lastStateParams
  have small : count ≤ RetryPolicy.maxLimit := Nat.le_trans within (RetryPolicy.limit_le read)
  have counted : policy.recount turn.request.lastStateParams =
      { policy with count := count, state := turn.request.lastStateParams } := by
    rw [RetryPolicy.recount, countIn_of_counts counts small]
  rw [counted] at own
  cases turn.taken with
  | completed calm last => exact .completed calm last
  | @suspended suspension frame calm stopped next =>
      refine .suspended calm next ?_
      have left : Table.get? RetryPolicy.countKey frame.here =
          Table.get? RetryPolicy.countKey turn.request.lastStateParams := by
        have unwritten := spares.unwritten turn.request.taskName turn.request.config
          ⟨turn.request.lastStateParams, .empty, [], turn.visit.clock, turn.visit.world⟩
        rwa [show turn.visit.operator.run _ _ .top _ = _ from stopped] at unwritten
      rw [Counts, spares.whole _ _ _ _ _ stopped, left]
      exact counts
  | unreadable _ unread _ =>
      rw [own] at unread
      cases unread
  | retried fell prepared admitted answered next =>
      rw [own] at prepared
      cases prepared
      have room : count < policy.limit := of_decide_eq_true admitted
      refine .retried fell room ⟨answered, rfl, rfl, ?_, ?_, ?_⟩ next
      · rw [Operator.get?_resumed_count spares.kept, Nat.min_eq_left]
        exact Nat.le_trans room (RetryPolicy.limit_le read)
      · intro key dropped
        exact Table.get?_foldl_erase_of_mem dropped _
      · intro key apart kept
        exact Operator.get?_resumed kept apart
  | failed fell prepared refused ended last =>
      rw [own] at prepared
      cases prepared
      have full : ¬ count < policy.limit := of_decide_eq_false refused
      exact .failed fell (by omega) ended last

/-- What becomes of a failure after so many retries, with the turns that follow. -/
def Settled (policy : RetryPolicy) (count : Nat) (turn : Turn World)
    (later : List (Turn World)) : Prop :=
  ∀ error, turn.escaped = some error →
    (count < policy.limit → ∃ suspension, Retries turn policy count error suspension) ∧
      (count = policy.limit → turn.outcome = .error (.of error) ∧ later = [])

/-- Turns that follow so many retries: they keep to the limit, and each failure is settled. -/
structure Bounded (policy : RetryPolicy) (count : Nat) (turns : List (Turn World)) : Prop where
  bound : count + turns.countP Turn.isRetry ≤ policy.limit
  settled : ∀ earlier turn later, turns = earlier ++ turn :: later →
    Settled policy (count + earlier.countP Turn.isRetry) turn later

namespace Bounded

variable {policy : RetryPolicy} {count : Nat} {turn : Turn World} {rest : List (Turn World)}

theorem nil (within : count ≤ policy.limit) : Bounded policy count ([] : List (Turn World)) where
  bound := by simpa using within
  settled _ _ _ split := by simp at split

theorem cons (first : Settled policy count turn rest)
    (after : Bounded policy (count + if turn.isRetry then 1 else 0) rest) :
    Bounded policy count (turn :: rest) := by
  constructor
  · have bound := after.bound
    rw [List.countP_cons]
    omega
  · intro earlier other later split
    cases earlier with
    | nil =>
        simp only [List.nil_append, List.cons.injEq] at split
        obtain ⟨rfl, rfl⟩ := split
        exact first
    | cons head others =>
        simp only [List.cons_append, List.cons.injEq] at split
        obtain ⟨rfl, split⟩ := split
        have sum : count + (turn :: others).countP Turn.isRetry =
            (count + if turn.isRetry then 1 else 0) + others.countP Turn.isRetry := by
          rw [List.countP_cons]
          omega
        rw [sum]
        exact after.settled others other later split

-- A turn without a failure leaves the count to the turns after it.
theorem calm (quiet : turn.escaped = none) (after : Bounded policy count rest) :
    Bounded policy count (turn :: rest) := by
  have none := Turn.isRetry_of_calm quiet
  apply cons
  · intro error fell
    rw [quiet] at fell
    cases fell
  · simpa [none] using after

theorem retried {error : TaskError} {suspension : Suspension} (fell : turn.escaped = some error)
    (room : count < policy.limit) (retries : Retries turn policy count error suspension)
    (next : turn.next = some (turn.request.withState suspension.state))
    (after : Bounded policy (count + 1) rest) : Bounded policy count (turn :: rest) := by
  have retry := Turn.isRetry_of_answered fell next
  apply cons
  · intro other same
    rw [fell] at same
    cases same
    exact ⟨fun _ => ⟨suspension, retries⟩, fun full => absurd full (Nat.ne_of_lt room)⟩
  · simpa [retry] using after

theorem failed {error : TaskError} (fell : turn.escaped = some error)
    (full : count = policy.limit) (ended : turn.outcome = .error (.of error))
    (last : turn.next = none) : Bounded policy count [turn] := by
  have none := Turn.isRetry_of_last last
  apply cons
  · intro other same
    rw [fell] at same
    cases same
    exact ⟨fun room => absurd full (Nat.ne_of_lt room), fun _ => ⟨ended, rfl⟩⟩
  · simpa [none] using nil (Nat.le_of_eq full)

end Bounded

theorem attempt_bounded {policy : RetryPolicy} {visits : List (Visit World)}
    (spares : ∀ visit ∈ visits, visit.operator.SparesCount) (request : TaskRequest)
    (read : ∀ visit ∈ visits,
      RetryPolicy.prepare request.config [] visit.operator.retryByDefault = .ok policy)
    {count : Nat} (counts : Counts count request.lastStateParams)
    (within : count ≤ policy.limit) : Bounded policy count (attempt request visits) := by
  induction visits generalizing request count with
  | nil => exact .nil within
  | cons visit rest ih =>
      have later := fun other member => spares other (List.mem_cons_of_mem visit member)
      have alike := fun other member => read other (List.mem_cons_of_mem visit member)
      have happened : Came policy count ⟨visit, request⟩ :=
        came (spares visit List.mem_cons_self) (read visit List.mem_cons_self) counts within
      rw [attempt]
      cases happened with
      | completed calm last =>
          rw [last]
          exact .calm calm (.nil within)
      | @suspended document calm next same =>
          have after := ih later (request.withState document) alike same within
          rw [next]
          exact .calm calm after
      | @retried error suspension fell room retries next =>
          have more : Counts (count + 1) suspension.state := by
            rw [Counts, if_neg (Nat.succ_ne_zero count)]
            exact retries.counted
          have after := ih later (request.withState suspension.state) alike more room
          rw [next]
          exact .retried fell room retries next after
      | failed fell full ended last =>
          rw [last]
          exact .failed fell full ended last

/-- An attempt is retried as a whole at most as often as its option allows, however many suspensions
of the task's own lie in between. Each failure until then is answered with a retry, which carries
the failure, the interval for the retries before it, and the document that the failing invocation
was given; the failure after the last retry ends the attempt. -/
theorem task_retries_are_bounded (request : TaskRequest) (visits : List (Visit World))
    (policy : RetryPolicy)
    (read : ∀ visit ∈ visits,
      RetryPolicy.prepare request.config [] visit.operator.retryByDefault = .ok policy)
    (spares : ∀ visit ∈ visits, visit.operator.SparesCount)
    (fresh : Table.get? RetryPolicy.countKey request.lastStateParams = none) :
    (attempt request visits).countP Turn.isRetry ≤ policy.limit ∧
      ∀ earlier turn later error, attempt request visits = earlier ++ turn :: later →
        turn.escaped = some error →
          (earlier.countP Turn.isRetry < policy.limit →
            ∃ suspension, Retries turn policy (earlier.countP Turn.isRetry) error suspension) ∧
          (earlier.countP Turn.isRetry = policy.limit →
            turn.outcome = .error (.of error) ∧ later = []) := by
  have bounded : Bounded policy 0 (attempt request visits) :=
    attempt_bounded spares request read fresh (Nat.zero_le policy.limit)
  constructor
  · have bound := bounded.bound
    rwa [Nat.zero_add] at bound
  · intro earlier turn later error split fell
    have settled := bounded.settled earlier turn later split error fell
    rwa [Nat.zero_add] at settled

/-- Notes a job and waits, or fails; the job is dropped when the task is retried. -/
def jobVisit (action : Action Unit TaskResult) : Visit Unit :=
  ⟨⟨fun _ _ => action, ["job"], false⟩, ⟨0⟩, ()⟩

def pausedVisit : Visit Unit :=
  jobVisit do
    Action.set .bool "job" true
    Action.suspend 5

def brokenVisit : Visit Unit := jobVisit (Action.fail (.other (.text "gone")))

def onceRequest : TaskRequest := ⟨"attempt-1", "+job", ⟨[("_retry", .nat 1)]⟩, []⟩

def oncePolicy : RetryPolicy := ⟨1, 0, 0, none, .constant, []⟩

theorem pausedVisit_spares : pausedVisit.operator.SparesCount where
  unwritten _ _ frame := Table.get?_insert_of_ne (by decide) _ frame.here
  kept := by decide
  whole _ _ frame suspension after ended := by
    cases ended
    rfl

theorem brokenVisit_spares : brokenVisit.operator.SparesCount where
  unwritten _ _ _ := rfl
  kept := by decide
  whole _ _ _ _ _ ended := by cases ended

/-- Waits before and after do not change that the second failure is the last. -/
theorem second_failure_ends_attempt :
    let turns := attempt onceRequest [pausedVisit, brokenVisit, pausedVisit, brokenVisit]
    turns.map Turn.isRetry = [false, true, false, false] ∧ turns.countP Turn.isRetry ≤ 1 ∧
      ∀ turn ∈ turns[3]?, turn.outcome = .error (.of (.other (.text "gone"))) := by
  have happened : attempt onceRequest [pausedVisit, brokenVisit, pausedVisit, brokenVisit] =
      [⟨pausedVisit, onceRequest⟩, ⟨brokenVisit, onceRequest.withState [("job", .bool true)]⟩,
        ⟨pausedVisit, onceRequest.withState [("retry_count", .nat 1)]⟩,
        ⟨brokenVisit, onceRequest.withState [("job", .bool true), ("retry_count", .nat 1)]⟩] := by
    rfl
  have read : ∀ visit ∈ [pausedVisit, brokenVisit, pausedVisit, brokenVisit],
      RetryPolicy.prepare onceRequest.config [] visit.operator.retryByDefault = .ok oncePolicy := by
    intro visit member
    simp only [List.mem_cons, List.not_mem_nil, or_false] at member
    rcases member with rfl | rfl | rfl | rfl <;> rfl
  have spares : ∀ visit ∈ [pausedVisit, brokenVisit, pausedVisit, brokenVisit],
      visit.operator.SparesCount := by
    intro visit member
    simp only [List.mem_cons, List.not_mem_nil, or_false] at member
    rcases member with rfl | rfl | rfl | rfl
    · exact pausedVisit_spares
    · exact brokenVisit_spares
    · exact pausedVisit_spares
    · exact brokenVisit_spares
  obtain ⟨bound, settled⟩ := task_retries_are_bounded onceRequest _ oncePolicy read spares rfl
  refine ⟨?_, bound, ?_⟩
  · rw [happened]
    rfl
  · intro turn last
    rw [happened] at last settled
    cases last
    exact ((settled [_, _, _] _ [] _ rfl rfl).2 rfl).1

end TaskRetry

end Resumable
