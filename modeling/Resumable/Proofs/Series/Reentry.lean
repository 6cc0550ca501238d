import Resumable.Proofs.Series.Kept

/-!
Re-entry of a retry or a wait that has kept its result. The retry returns it from then on. The wait
returns it unless it is stored as null; then it begins anew, with a first check.
-/

namespace Resumable.Series

variable {World α β : Type}

/-- What the operation of a call answers from an empty scope. -/
def Call.fresh (call : Call World β) (place : Place) : Answer β :=
  let (result, after) :=
    call.operation place ⟨[], call.report, call.log, call.clock, call.world⟩
  ⟨result, after.here⟩

theorem nested_fresh {call : Call World β} {place : Place} {document : Document}
    {after : Frame (Watched World β)} {result : Except TaskError β}
    (unscoped : Table.get? "operation" document = none)
    (ran : Action.nested "operation" (watching call.operation) place (call.frame document) =
      (result, after)) :
    ∃ inside, result = (call.fresh inside).result ∧ after.world.events = [call.fresh inside] ∧
      after.here = document.setChild "operation" (call.fresh inside).scope := by
  have empty : document.child "operation" = [] := by
    rw [Document.child, unscoped]
  simp only [Action.nested, watching, Call.here_frame, empty, Prod.mk.injEq] at ran
  obtain ⟨rfl, rfl⟩ := ran
  exact ⟨_, rfl, rfl, rfl⟩

/-- A first check of a wait. The deadline counts from now, and the time is kept while the wait goes
on; the operation starts from an empty scope, and no answer has been counted before. -/
inductive FirstCheck (polling : Polling) (codec : Json.Codec α) (path : List String)
    (call : Call World (Option α)) (turn : Turn α (Option α)) : Prop where
  | expired {timeout : Span} (given : polling.timeout = some timeout)
      (immediate : Polling.limit timeout ≤ 0) (unasked : turn.answers = [])
      (result : turn.result = .error (.pollingTimeout polling.message timeout))
      (started : turn.left.memberAt (path ++ [polling.key]) "start_time" =
        some (.int (polling.read call.clock)))
  | passed {place : Place} {error : TaskError}
      (inTime : ∀ timeout, polling.timeout = some timeout → 0 < Polling.limit timeout)
      (answered : turn.answers = [call.fresh place])
      (failed : (call.fresh place).result = .error error) (result : turn.result = .error error)
      (started : turn.left.memberAt (path ++ [polling.key]) "start_time" =
        some (.int (polling.read call.clock)))
  | notReady {place : Place}
      (inTime : ∀ timeout, polling.timeout = some timeout → 0 < Polling.limit timeout)
      (answered : turn.answers = [call.fresh place])
      (undecided : (call.fresh place).result = .ok none)
      (result : turn.result = .error (.suspended
        (.of (polling.interval.backoff 0 polling.base) turn.left)))
      (started : turn.left.memberAt (path ++ [polling.key]) "start_time" =
        some (.int (polling.read call.clock)))
      (counted : turn.left.memberAt (path ++ [polling.key]) "iteration" = some (.nat 1))
  | ready {place : Place} {value : α}
      (inTime : ∀ timeout, polling.timeout = some timeout → 0 < Polling.limit timeout)
      (answered : turn.answers = [call.fresh place])
      (decided : (call.fresh place).result = .ok (some value))
      (result : turn.result = match codec.encode value with
        | .ok _ => .ok value
        | .error source => .error (.state (.encode "result" source)))
      (cleared : ∀ key ∈ touched, turn.left.memberAt (path ++ [polling.key]) key = none)

theorem elapsed_self (now : Int) : Polling.elapsed now now = 0 := by
  rw [Polling.elapsed, Int.sub_self]
  decide

theorem immediate_of_overdue {polling : Polling} {now : Int} {timeout : Span}
    (overdue : polling.Overdue now now timeout) : Polling.limit timeout ≤ 0 := by
  have late := overdue.2
  rwa [elapsed_self] at late

theorem inTime_at_start {polling : Polling} {now : Int}
    (inTime : ∀ timeout, ¬ polling.Overdue now now timeout) :
    ∀ timeout, polling.timeout = some timeout → 0 < Polling.limit timeout := by
  intro timeout given
  have early : ¬ Polling.limit timeout ≤ Polling.elapsed now now :=
    fun late => inTime timeout ⟨given, late⟩
  rw [elapsed_self] at early
  exact Int.not_le.mp early

/-- The scope of a wait in which the time of the first check has been set. -/
def begun (now : Int) (document : Document) : Document :=
  Table.insert "start_time" (.int now) document

theorem operation_begun {document : Document} (now : Int)
    (unscoped : Table.get? "operation" document = none) :
    Table.get? "operation" (begun now document) = none := by
  rw [begun, Table.get?_insert_of_ne (by decide), unscoped]

theorem iteration_begun {document : Document} (now : Int) (scope : Document)
    (uncounted : Table.get? "iteration" document = none) :
    ((begun now document).setChild "operation" scope).getOr .count "iteration" 0 = .ok 0 := by
  have missing : Table.get? "iteration" ((begun now document).setChild "operation" scope) =
      none := by
    rw [Document.get?_setChild_of_ne (by decide), begun, Table.get?_insert_of_ne (by decide),
      uncounted]
  rw [Document.getOr, Document.get, missing]
  rfl

theorem start_begun (document : Document) (now : Int) (scope : Document) :
    Table.get? "start_time" ((begun now document).setChild "operation" scope) =
      some (.int now) := by
  rw [Document.get?_setChild_of_ne (by decide), begun, Table.get?_insert_self]

section

variable {polling : Polling} {call : Call World (Option α)} {place : Place} {document : Document}

-- With no time of a first check to be found, the first check is now.
theorem started_now {start : Int} {opened : Frame (Watched World (Option α))}
    (unstarted : Table.get? "start_time" document = none)
    (started : Polling.Started (polling.read call.clock) (call.frame document) start opened) :
    start = polling.read call.clock ∧
      opened = call.frame (begun (polling.read call.clock) document) := by
  have absent : (call.frame document).here.get .signed "start_time" = .ok none := by
    simp only [Call.here_frame, Document.get, unstarted]
  exact (Polling.Started.now absent).unique started

theorem check_ready {value : α} {after : Frame (Watched World (Option α))}
    (unstarted : Table.get? "start_time" document = none)
    (unscoped : Table.get? "operation" document = none)
    (ran : polling.check (watching call.operation) place (call.frame document) =
      (.ok value, after)) :
    (∀ timeout, polling.timeout = some timeout → 0 < Polling.limit timeout) ∧
      ∃ inside, after.world.events = [call.fresh inside] ∧
        (call.fresh inside).result = .ok (some value) := by
  cases Polling.checked ran with
  | ready started inTime called =>
      obtain ⟨rfl, rfl⟩ := started_now unstarted started
      obtain ⟨inside, result, events, _⟩ := nested_fresh (operation_begun _ unscoped) called
      exact ⟨inTime_at_start inTime, inside, events, result.symm⟩

end

theorem awaitOnce_begins (polling : Polling) (codec : Json.Codec α) {path : List String}
    {document : Document}
    (unseen : document.memberAt (path ++ [polling.key]) "result" = some .null)
    (cleared : ∀ key ∈ touched, document.memberAt (path ++ [polling.key]) key = none)
    (call : Call World (Option α)) :
    FirstCheck polling codec path call (turn path (polling.awaitOnce codec) call document) := by
  obtain ⟨result, inner, ended, same⟩ := awaitOnce_turn polling codec path call document
  rw [same]
  rw [Document.memberAt_eq] at unseen
  simp only [Document.memberAt_eq] at cleared
  have unstarted := cleared "start_time" (by decide)
  have uncounted := cleared "iteration" (by decide)
  have unscoped := cleared "operation" (by decide)
  have absent : (document.within (path ++ [polling.key])).get codec "result" = .ok none := by
    simp only [Document.get, unseen]
  cases ended with
  | unread unread =>
      rw [Call.here_frame, absent] at unread
      cases unread
  | recalled seen =>
      rw [Call.here_frame, absent] at seen
      cases seen
  | stopped _ check =>
      cases Polling.checked check with
      | unstarted unread =>
          simp only [Call.here_frame, Document.get, unstarted] at unread
          cases unread
      | expired started overdue =>
          obtain ⟨rfl, rfl⟩ := started_now unstarted started
          refine .expired overdue.1 (immediate_of_overdue overdue) rfl rfl ?_
          rw [Document.memberAt_setWithin]
          exact Table.get?_insert_self ..
      | passed started inTime called =>
          obtain ⟨rfl, rfl⟩ := started_now unstarted started
          obtain ⟨inside, answer, events, left⟩ := nested_fresh (operation_begun _ unscoped) called
          refine .passed (inTime_at_start inTime) events answer.symm rfl ?_
          rw [Document.memberAt_setWithin, left, start_begun]
      | uncounted started _ called unread =>
          obtain ⟨rfl, rfl⟩ := started_now unstarted started
          obtain ⟨_, _, _, left⟩ := nested_fresh (operation_begun _ unscoped) called
          rw [left, iteration_begun _ _ uncounted] at unread
          cases unread
      | waits started inTime called read =>
          obtain ⟨rfl, rfl⟩ := started_now unstarted started
          obtain ⟨inside, answer, events, left⟩ := nested_fresh (operation_begun _ unscoped) called
          rw [left, iteration_begun _ _ uncounted] at read
          cases read
          rw [Place.root_descend]
          refine .notReady (inTime_at_start inTime) events answer.symm rfl ?_ ?_
          · rw [Document.memberAt_setWithin, Polling.counted, Table.get?_insert_of_ne (by decide),
              left, start_begun]
          · rw [Document.memberAt_setWithin, Polling.counted, Table.get?_insert_self]
            rfl
  | unstored _ check refused =>
      obtain ⟨inTime, inside, events, decided⟩ := check_ready unstarted unscoped check
      obtain ⟨gone, _⟩ := check_answered check
      refine .ready inTime events decided ?_ ?_
      · rw [refused]
      · intro key member
        rw [Document.memberAt_setWithin, gone key member]
  | stored _ check encoded =>
      obtain ⟨inTime, inside, events, decided⟩ := check_ready unstarted unscoped check
      obtain ⟨gone, _⟩ := check_answered check
      refine .ready inTime events decided ?_ ?_
      · rw [encoded]
      · intro key member
        have other : key ≠ "result" := ne_of_mem_of_not_mem member (by decide)
        rw [Document.memberAt_setWithin, Table.get?_insert_of_ne other, gone key member]

-- A check that is late at once asks nobody, and gives back no value.
theorem FirstCheck.not_recalled {polling : Polling} {codec : Json.Codec α} {path : List String}
    {call : Call World (Option α)} {turn : Turn α (Option α)} {value : α}
    (first : FirstCheck polling codec path call turn) :
    ¬ (turn.answers = [] ∧ turn.result = .ok value) := by
  rintro ⟨unasked, result⟩
  cases first with
  | expired _ _ _ timedOut => cases timedOut.symm.trans result
  | passed _ answered _ _ _ => cases answered.symm.trans unasked
  | notReady _ answered _ _ _ _ => cases answered.symm.trans unasked
  | ready _ answered _ _ _ => cases answered.symm.trans unasked

/-- Keeping a result is all or nothing, and decides what the next call does. A call that fails
leaves what is kept as it was, and one whose operation gave a value leaves it kept as a whole. Then
a second call of the retry returns the value without its operation, whatever it is stored as; a
second call of the wait does so just when it is not stored as null, and else makes a first check. -/
theorem memo_is_all_or_nothing (codec : Json.Codec α) (path : List String)
    (document : Document) :
    (∀ (retry : Retry) (call : Call World α),
      let first := turn path (retry.runOnce codec) call document
      KeepsOnce retry codec path first ∧
      ∀ value stored, first.result = .ok value → first.answers ≠ [] →
        codec.encode value = .ok stored → codec.decode stored = .ok value →
        ∀ (again : Retry) (next : Call World α), again.key = retry.key →
          turn path (again.runOnce codec) next first.left =
            ⟨next.clock, first.left, [], .ok value, first.left⟩) ∧
    ∀ (polling : Polling) (call : Call World (Option α)),
      let first := turn path (polling.awaitOnce codec) call document
      KeepsAwaited polling codec path first ∧
      ∀ value stored, first.result = .ok value → first.answers ≠ [] →
        codec.encode value = .ok stored → codec.decode stored = .ok value →
        ∀ (again : Polling) (next : Call World (Option α)), again.key = polling.key →
          let second := turn path (again.awaitOnce codec) next first.left
          (second.answers = [] ∧ second.result = .ok value ↔ stored ≠ .null) ∧
          (stored ≠ .null → second = ⟨next.clock, first.left, [], .ok value, first.left⟩) ∧
          (stored = .null → FirstCheck again codec path next second) := by
  constructor
  · intro retry call first
    have keeps : KeepsOnce retry codec path first := runOnce_keeps retry codec path call document
    refine ⟨keeps, ?_⟩
    intro value stored result asked encoded read again next sameKey
    obtain ⟨_, written, same, found, done, _⟩ := keeps.kept value result asked
    cases encoded.symm.trans same
    rw [← sameKey] at found done
    have left : first.left.setWithin (path ++ [retry.key])
        (first.left.within (path ++ [retry.key])) = first.left :=
      setWithin_left path retry.key (retry.once codec) call document
    rw [← sameKey] at left
    rw [runOnce_recalls done found read next]
    exact congrArg _ left
  · intro polling call first
    have keeps : KeepsAwaited polling codec path first :=
      awaitOnce_keeps polling codec path call document
    refine ⟨keeps, ?_⟩
    intro value stored result asked encoded read again next sameKey second
    obtain ⟨_, written, same, found, cleared⟩ := keeps.kept value result asked
    cases encoded.symm.trans same
    have left : first.left.setWithin (path ++ [polling.key])
        (first.left.within (path ++ [polling.key])) = first.left :=
      setWithin_left path polling.key (polling.once codec) call document
    rw [← sameKey] at found cleared left
    have recalled (present : stored ≠ .null) :
        second = ⟨next.clock, first.left, [], .ok value, first.left⟩ := by
      refine (awaitOnce_recalls found present read next).trans ?_
      exact congrArg _ left
    have begins (absent : stored = .null) : FirstCheck again codec path next second := by
      rw [absent] at found
      exact awaitOnce_begins again codec found cleared next
    refine ⟨⟨?_, ?_⟩, recalled, begins⟩
    · intro returned absent
      exact (begins absent).not_recalled returned
    · intro present
      rw [recalled present]
      exact ⟨rfl, rfl⟩

/-- A call at a second of the clock. -/
def atSecond (second : Int) (operation : Action Unit β) : Call Unit β :=
  ⟨operation, .empty, [], ⟨second * 1000⟩, ()⟩

def greeted : Turn Unit Unit :=
  turn ["job"] ((Retry.withKey "greet").runOnce .unit) (atSecond 1 (pure ())) []

def greetingSeen : Turn Unit (Option Unit) :=
  turn ["job"] ((Polling.withKey "greet").awaitOnce .unit) (atSecond 1 (pure (some ()))) []

/-- A result with nothing in it is stored as null. The retry returns it five seconds later without
asking an operation that would fail by now; the wait asks again. -/
theorem null_is_no_result_of_a_wait :
    greeted.result = .ok () ∧ greeted.answers ≠ [] ∧
      turn ["job"] ((Retry.withKey "greet").runOnce .unit)
          (atSecond 6 (Action.fail (.other (.http 503)))) greeted.left =
        ⟨⟨6000⟩, greeted.left, [], .ok (), greeted.left⟩ ∧
      greetingSeen.result = .ok () ∧ greetingSeen.answers ≠ [] ∧
      FirstCheck (.withKey "greet") .unit ["job"] (atSecond 6 (pure none))
        (turn ["job"] ((Polling.withKey "greet").awaitOnce .unit) (atSecond 6 (pure none))
          greetingSeen.left) := by
  have given : greeted.result = .ok () := rfl
  have asked : greeted.answers ≠ [] := by
    intro unasked
    cases unasked
  have seen : greetingSeen.result = .ok () := rfl
  have looked : greetingSeen.answers ≠ [] := by
    intro unasked
    cases unasked
  obtain ⟨once, awaited⟩ := memo_is_all_or_nothing Json.Codec.unit ["job"] []
  obtain ⟨_, returns⟩ := once (Retry.withKey "greet") (atSecond 1 (pure ()))
  obtain ⟨_, begins⟩ := awaited (Polling.withKey "greet") (atSecond 1 (pure (some ())))
  have returned := returns () .null given asked rfl rfl (Retry.withKey "greet")
    (atSecond 6 (Action.fail (.other (.http 503)))) rfl
  obtain ⟨_, _, first⟩ := begins () .null seen looked rfl rfl (Polling.withKey "greet")
    (atSecond 6 (pure none)) rfl
  exact ⟨given, asked, returned, seen, looked, first rfl⟩

end Resumable.Series
