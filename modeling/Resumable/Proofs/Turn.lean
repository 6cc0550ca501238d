import Resumable.Proofs.Operator

/-!
The turns of one attempt at a task. Each turn is an invocation of the operator; if it ends with a
suspension, the next is given the document that the suspension carries, and otherwise it is the
last. A suspension is the task's own, or answers a failure that is retried as a whole.
-/

namespace Resumable

variable {World : Type}

/-- What the operator does this time, and the clock and the world that it finds. -/
structure Visit (World : Type) where
  operator : Operator World
  clock : Clock
  world : World

/-- A visit with the request that it is given. -/
structure Turn (World : Type) where
  visit : Visit World
  request : TaskRequest

namespace Turn

def ran (turn : Turn World) : Except TaskError TaskResult × Frame World :=
  turn.visit.operator.ran turn.request turn.visit.clock turn.visit.world

def invocation (turn : Turn World) : Operator.Invocation World :=
  turn.visit.operator.invoke turn.request turn.visit.clock turn.visit.world

/-- The failure that escapes the operator, if one does. -/
def escaped (turn : Turn World) : Option TaskError :=
  match turn.ran.1 with
  | .ok _ | .error (.suspended _) => none
  | .error error => some error

def outcome (turn : Turn World) : Except TaskFailure (Outcome TaskResult) :=
  turn.invocation.outcome

/-- The request that follows, if the turn ended with a suspension. -/
def next (turn : Turn World) : Option TaskRequest :=
  match turn.outcome with
  | .ok (.suspended suspension) => some (turn.request.withState suspension.state)
  | _ => none

/-- A failure was answered with a suspension. -/
def isRetry (turn : Turn World) : Bool := turn.escaped.isSome && turn.next.isSome

/-- What a turn can come to, one case for each end. -/
inductive Taken (turn : Turn World) : Prop where
  | completed (calm : turn.escaped = none) (last : turn.next = none)
  | suspended {suspension : Suspension} {frame : Frame World} (calm : turn.escaped = none)
      (stopped : turn.ran = (.error (.suspended suspension), frame))
      (next : turn.next = some (turn.request.withState suspension.state))
  | unreadable {error : TaskError} {invalid : ConfigError} (fell : turn.escaped = some error)
      (unread : RetryPolicy.prepare turn.request.config turn.request.lastStateParams
        turn.visit.operator.retryByDefault = .error invalid)
      (last : turn.next = none)
  | retried {error : TaskError} {policy : RetryPolicy} (fell : turn.escaped = some error)
      (prepared : RetryPolicy.prepare turn.request.config turn.request.lastStateParams
        turn.visit.operator.retryByDefault = .ok policy)
      (admitted : policy.admits = true)
      (answered : turn.outcome = .ok (.suspended
        ⟨policy.nextInterval, turn.visit.operator.resumed policy, some error.document⟩))
      (next : turn.next =
        some (turn.request.withState (turn.visit.operator.resumed policy)))
  | failed {error : TaskError} {policy : RetryPolicy} (fell : turn.escaped = some error)
      (prepared : RetryPolicy.prepare turn.request.config turn.request.lastStateParams
        turn.visit.operator.retryByDefault = .ok policy)
      (refused : policy.admits = false) (ended : turn.outcome = .error (.of error))
      (last : turn.next = none)

theorem escaped_of_failed {turn : Turn World} {error : TaskError} {frame : Frame World}
    (failed : turn.ran = (.error error, frame)) (final : error.isSuspended = false) :
    turn.escaped = some error := by
  rw [escaped, failed]
  cases error with
  | suspended suspension => cases final
  | _ => rfl

theorem outcome_of_failed {turn : Turn World} {error : TaskError} {frame : Frame World}
    (failed : turn.ran = (.error error, frame)) (final : error.isSuspended = false) :
    turn.outcome = (turn.visit.operator.afterFailure turn.request error).1 := by
  rw [outcome, invocation, Operator.invoke_of_failure failed final]

theorem next_of_stopped {turn : Turn World} {suspension : Suspension} {frame : Frame World}
    (stopped : turn.ran = (.error (.suspended suspension), frame)) :
    turn.next = some (turn.request.withState suspension.state) := by
  rw [ran] at stopped
  simp only [next, outcome, invocation, Operator.invoke, stopped]

theorem taken (turn : Turn World) : turn.Taken := by
  have happened := turn.visit.operator.invoked turn.request turn.visit.clock turn.visit.world
  generalize reached : turn.visit.operator.invoke turn.request turn.visit.clock turn.visit.world =
    invocation at happened
  have outcome : turn.outcome = invocation.outcome := by rw [Turn.outcome, Turn.invocation, reached]
  cases happened with
  | completed returned =>
      exact .completed (by rw [escaped, ran, returned]) (by rw [next, outcome])
  | suspended stopped =>
      exact .suspended (by rw [escaped, ran, stopped]) stopped (next_of_stopped stopped)
  | unreadable failed final unread =>
      exact .unreadable (escaped_of_failed failed final) unread (by rw [next, outcome])
  | retried failed final prepared admitted =>
      exact .retried (escaped_of_failed failed final) prepared admitted outcome
        (by rw [next, outcome])
  | failed failed final prepared refused =>
      exact .failed (escaped_of_failed failed final) prepared refused outcome
        (by rw [next, outcome])

theorem isRetry_of_calm {turn : Turn World} (calm : turn.escaped = none) :
    turn.isRetry = false := by
  rw [isRetry, calm]
  rfl

theorem isRetry_of_last {turn : Turn World} (last : turn.next = none) :
    turn.isRetry = false := by
  rw [isRetry, last, Option.isSome_none, Bool.and_false]

theorem isRetry_of_answered {turn : Turn World} {error : TaskError} {following : TaskRequest}
    (fell : turn.escaped = some error) (next : turn.next = some following) :
    turn.isRetry = true := by
  rw [isRetry, fell, next]
  rfl

end Turn

/-- The turns of an attempt. Each request carries the document of the suspension before. -/
def attempt (request : TaskRequest) : List (Visit World) → List (Turn World)
  | [] => []
  | visit :: rest =>
      ⟨visit, request⟩ ::
        (Turn.next ⟨visit, request⟩).elim [] fun following => attempt following rest

-- What follows a turn is itself an attempt, from the request that the turn leaves.
theorem attempt_split {visits : List (Visit World)} {request : TaskRequest}
    {earlier later : List (Turn World)} {turn : Turn World}
    (happened : attempt request visits = earlier ++ turn :: later) :
    turn.visit ∈ visits ∧ ∃ rest, (∀ other ∈ rest, other ∈ visits) ∧
      later = turn.next.elim [] fun following => attempt following rest := by
  induction visits generalizing request earlier with
  | nil => simp [attempt] at happened
  | cons visit rest ih =>
      rw [attempt] at happened
      cases earlier with
      | nil =>
          simp only [List.nil_append, List.cons.injEq] at happened
          obtain ⟨rfl, rfl⟩ := happened
          exact ⟨List.mem_cons_self, rest, fun other => List.mem_cons_of_mem visit, rfl⟩
      | cons first others =>
          simp only [List.cons_append, List.cons.injEq] at happened
          obtain ⟨rfl, happened⟩ := happened
          cases next : Turn.next ⟨visit, request⟩ with
          | none => simp [next] at happened
          | some following =>
              rw [next] at happened
              obtain ⟨member, after, sub, tail⟩ := ih happened
              exact ⟨List.mem_cons_of_mem visit member, after,
                fun other within => List.mem_cons_of_mem visit (sub other within), tail⟩

end Resumable
