import Resumable.Proofs.Check
import Resumable.Proofs.Series.Turns

/-!
Series of checks of one wait. The scope of the wait keeps the time of the first check and counts the
answers "not ready", both since the operation was last ready; by that time a check is late or not,
whatever the clock does in between. What the operation suspends with itself, and its errors, pass
through and do not count.
-/

namespace Resumable.Series

variable {World α : Type}

def Fits (millis : Int) : Prop := -Int.ofNat (1 <<< 63) ≤ millis ∧ millis ≤ Polling.maxMillis

/-- Readings of the time have 64 bits. -/
def Timed (polling : Polling) : Prop := ∀ clock, Fits (polling.read clock)

/-- The operation was called and is not ready. -/
def Turn.notReady (turn : Turn α (Option α)) : Bool :=
  turn.answers.any fun answer => match answer.result with
    | .ok none => true
    | _ => false

/-- The time of the first check since the operation was last ready. -/
def startOf (polling : Polling) (turns : List (Turn α (Option α))) : Option Int :=
  (sinceSuccess turns).head?.map fun first => polling.read first.clock

/-- The scope of a wait after some turns: it keeps the time of the first of them and the number of
the answers "not ready" among them, of those since the operation was last ready. -/
structure Keeps (polling : Polling) (path : List String) (turns : List (Turn α (Option α)))
    (document : Document) : Prop where
  started : document.memberAt (path ++ [polling.key]) "start_time" =
    (startOf polling turns).map .int
  counted : document.memberAt (path ++ [polling.key]) "iteration" =
    counter (countSince Turn.notReady turns)

/-- The members of the scope of a wait that a check can change. -/
def touched : List String := ["operation", "iteration", "start_time"]

/-- What a wait makes of an answer after so many answers "not ready". -/
inductive Awaits (polling : Polling) (path : List String) (count : Nat)
    (turn : Turn α (Option α)) : Answer (Option α) → Prop where
  | ready {value : α} {scope : Document} (result : turn.result = .ok value)
      (cleared : ∀ key ∈ touched, turn.left.memberAt (path ++ [polling.key]) key = none) :
      Awaits polling path count turn ⟨.ok (some value), scope⟩
  | notReady {scope : Document}
      (result : turn.result = .error (.suspended
        (.of (polling.interval.backoff (min count maxCount) polling.base) turn.left)))
      (kept : turn.left.memberAt (path ++ [polling.key]) "operation" = some (.object scope)) :
      Awaits polling path count turn ⟨.ok none, scope⟩
  | passed {error : TaskError} {scope : Document} (result : turn.result = .error error)
      (kept : turn.left.memberAt (path ++ [polling.key]) "operation" = some (.object scope)) :
      Awaits polling path count turn ⟨.error error, scope⟩

/-- A turn of a wait whose first check was at this time. The operation is called once, unless the
check is late; a late check leaves the counter and the scope of the operation as they were. -/
structure Waited (polling : Polling) (path : List String) (start : Int) (count : Nat)
    (turn : Turn α (Option α)) : Prop where
  inTime : (∀ timeout, polling.timeout = some timeout →
      Polling.elapsed start (polling.read turn.clock) < Polling.limit timeout) →
    ∃ answer, turn.answers = [answer] ∧ Awaits polling path count turn answer
  late : ∀ timeout, polling.timeout = some timeout →
    Polling.limit timeout ≤ Polling.elapsed start (polling.read turn.clock) →
      turn.answers = [] ∧ turn.result = .error (.pollingTimeout polling.message timeout) ∧
        ∀ key ∈ ["iteration", "operation"], turn.left.memberAt (path ++ [polling.key]) key =
          turn.given.memberAt (path ++ [polling.key]) key
  same : Document.SameBut (path ++ [polling.key]) touched turn.given turn.left

theorem timed_withKey (key : String) : Timed (.withKey key) := by
  intro clock
  change Fits clock.now.millis
  generalize clock.now = instant
  obtain ⟨seconds, nanos, low, high, small, _⟩ := instant
  simp only [Instant.firstSecond, Instant.lastSecond] at low high
  have most : nanos / 1000000 < 2000 := by omega
  have top : Polling.maxMillis = 9223372036854775807 := rfl
  simp only [Fits, Instant.millis, top, Int.ofNat_eq_natCast]
  omega

theorem signed_decode {millis : Int} (fits : Fits millis) :
    Json.Codec.signed.decode (.int millis) = .ok millis := if_pos fits

/-! What the turns so far come to. -/

theorem startOf_fits {polling : Polling} (timed : Timed polling)
    {turns : List (Turn α (Option α))} {start : Int} (found : startOf polling turns = some start) :
    Fits start := by
  obtain ⟨first, _, rfl⟩ := Option.map_eq_some_iff.mp found
  exact timed first.clock

theorem startOf_concat (polling : Polling) (turns : List (Turn α (Option α)))
    (turn : Turn α (Option α)) :
    startOf polling (turns ++ [turn]) =
      if turn.succeeds then none
      else some ((startOf polling turns).getD (polling.read turn.clock)) := by
  rw [startOf, sinceSuccess_concat]
  cases turn.succeeds with
  | true => rfl
  | false =>
      rw [startOf]
      cases sinceSuccess turns <;> rfl

namespace Keeps

variable {polling : Polling} {path : List String} {before : List (Turn α (Option α))}
  {turn : Turn α (Option α)} {document : Document}

theorem startTime (keeps : Keeps polling path before document) (timed : Timed polling) :
    (document.within (path ++ [polling.key])).get .signed "start_time" =
      .ok (startOf polling before) := by
  have held := keeps.started
  rw [Document.memberAt_eq] at held
  cases found : startOf polling before with
  | none =>
      rw [found] at held
      simp only [Document.get, held]
      rfl
  | some start =>
      rw [found] at held
      exact Document.get_of_some (by simp [Json.int]) held
        (signed_decode (startOf_fits timed found))

theorem of_success (done : turn.succeeds = true)
    (started : turn.left.memberAt (path ++ [polling.key]) "start_time" = none)
    (counted : turn.left.memberAt (path ++ [polling.key]) "iteration" = none) :
    Keeps polling path (before ++ [turn]) turn.left where
  started := by
    rw [startOf_concat, if_pos done]
    exact started
  counted := by
    rw [countSince_concat, if_pos done]
    exact counted

theorem of_more (more : turn.succeeds = false)
    (started : turn.left.memberAt (path ++ [polling.key]) "start_time" =
      some (.int ((startOf polling before).getD (polling.read turn.clock))))
    (counted : turn.left.memberAt (path ++ [polling.key]) "iteration" =
      counter (countSince Turn.notReady before + if turn.notReady then 1 else 0)) :
    Keeps polling path (before ++ [turn]) turn.left where
  started := by
    rw [startOf_concat, if_neg (Bool.eq_false_iff.mp more)]
    exact started
  counted := by
    rw [countSince_concat, if_neg (Bool.eq_false_iff.mp more)]
    exact counted

end Keeps

/-! One turn. -/

theorem opened_of_started {now start : Int} {start? : Option Int} {frame opened : Frame World}
    (read : frame.here.get .signed "start_time" = .ok start?)
    (held : Table.get? "start_time" frame.here = start?.map .int)
    (started : Polling.Started now frame start opened) :
    start = start?.getD now ∧ Table.get? "start_time" opened.here = some (.int start) ∧
      ∀ key, key ≠ "start_time" → Table.get? key opened.here = Table.get? key frame.here := by
  cases started with
  | earlier found =>
      rw [read] at found
      cases found
      exact ⟨rfl, held, fun _ _ => rfl⟩
  | now absent =>
      rw [read] at absent
      cases absent
      exact ⟨rfl, Table.get?_insert_self .., fun _ other => Table.get?_insert_of_ne other ..⟩

/-- What a call of the operation leaves in the scope of the wait. -/
structure Called (given : Document) (start : Int) (count : Nat) (answer : Answer (Option α))
    (after : Frame (Watched World (Option α))) : Prop where
  events : after.world.events = [answer]
  started : Table.get? "start_time" after.here = some (.int start)
  counted : Table.get? "iteration" after.here = counter count
  operation : Table.get? "operation" after.here = some (.object answer.scope)
  same : ∀ key ∉ touched, Table.get? key after.here = Table.get? key given

theorem called_of_nested {operation : Action World (Option α)} {place : Place}
    {frame opened after : Frame (Watched World (Option α))} {result : Except TaskError (Option α)}
    {now start : Int} {start? : Option Int} {count : Nat}
    (started : Polling.Started now frame start opened)
    (found : frame.here.get .signed "start_time" = .ok start?)
    (held : Table.get? "start_time" frame.here = start?.map .int)
    (counted : Table.get? "iteration" frame.here = counter count)
    (unseen : frame.world.events = [])
    (ran : Action.nested "operation" (watching operation) place opened = (result, after)) :
    start = start?.getD now ∧ ∃ scope, Called frame.here start count ⟨result, scope⟩ after := by
  obtain ⟨rfl, begun, kept⟩ := opened_of_started found held started
  obtain ⟨scope, left, events⟩ := nested_watching ran
  refine ⟨rfl, scope, ?_, ?_, ?_, ?_, ?_⟩
  · rw [events, started.world, unseen]
    rfl
  · rw [left, Document.get?_setChild_of_ne (by decide), begun]
  · rw [left, Document.get?_setChild_of_ne (by decide), kept _ (by decide), counted]
  · rw [left, Document.setChild, Table.get?_insert_self]
  · intro key other
    simp only [touched, List.mem_cons, List.not_mem_nil, not_or] at other
    rw [left, Document.get?_setChild_of_ne other.1, kept key other.2.2.1]

theorem get?_cleared_of_mem {key : String} (member : key ∈ touched) (here : Document) :
    Table.get? key (Polling.cleared here) = none :=
  Table.get?_foldl_erase_of_mem member here

theorem get?_cleared_of_not_mem {key : String} (other : key ∉ touched) (here : Document) :
    Table.get? key (Polling.cleared here) = Table.get? key here :=
  Table.get?_foldl_erase other here

theorem Waited.of_answer {polling : Polling} {path : List String} {start : Int} {count : Nat}
    {turn : Turn α (Option α)} {answer : Answer (Option α)}
    (inTime : ∀ timeout, ¬ polling.Overdue start (polling.read turn.clock) timeout)
    (answered : turn.answers = [answer]) (awaits : Awaits polling path count turn answer)
    (same : Document.SameBut (path ++ [polling.key]) touched turn.given turn.left) :
    Waited polling path start count turn where
  inTime _ := ⟨answer, answered, awaits⟩
  late timeout given late := absurd ⟨given, late⟩ (inTime timeout)
  same := same

theorem Waited.of_late {polling : Polling} {path : List String} {start : Int} {count : Nat}
    {timeout : Span} {turn : Turn α (Option α)}
    (overdue : polling.Overdue start (polling.read turn.clock) timeout)
    (unasked : turn.answers = [])
    (result : turn.result = .error (.pollingTimeout polling.message timeout))
    (kept : ∀ key, key ≠ "start_time" → turn.left.memberAt (path ++ [polling.key]) key =
      turn.given.memberAt (path ++ [polling.key]) key)
    (same : Document.SameBut (path ++ [polling.key]) touched turn.given turn.left) :
    Waited polling path start count turn where
  inTime early := absurd overdue.2 (not_le.mpr (early timeout overdue.1))
  late other given _ := by
    cases overdue.1.symm.trans given
    refine ⟨unasked, result, fun key member => kept key ?_⟩
    rintro rfl
    simp at member
  same := same

theorem wait_turn {polling : Polling} (timed : Timed polling) (path : List String)
    (call : Call World (Option α)) {document : Document} {before : List (Turn α (Option α))}
    (keeps : Keeps polling path before document) :
    Waited polling path
        ((startOf polling before).getD
          (polling.read (turn path polling.awaitReady call document).clock))
        (countSince Turn.notReady before) (turn path polling.awaitReady call document) ∧
      Keeps polling path (before ++ [turn path polling.awaitReady call document])
        (turn path polling.awaitReady call document).left := by
  obtain ⟨result, inner, checked, same⟩ := turn_nested path polling.key polling.check call document
  change turn path polling.awaitReady call document = _ at same
  rw [same]
  have found := keeps.startTime timed
  have held := keeps.started
  have counted := keeps.counted
  rw [Document.memberAt_eq] at held counted
  have start_mem : "start_time" ∈ touched := by decide
  cases Polling.checked checked with
  | unstarted unread =>
      rw [Call.here_frame, found] at unread
      cases unread
  | @expired start timeout opened started overdue =>
      obtain ⟨rfl, begun, kept⟩ := opened_of_started found held started
      have unasked : opened.world.events = [] := by
        rw [started.world]
        rfl
      refine ⟨.of_late overdue unasked rfl ?_ ?_, .of_more rfl ?_ ?_⟩
      · intro key other
        rw [Document.memberAt_setWithin, Document.memberAt_eq]
        exact kept key other
      · apply Document.sameBut_setWithin start_mem
        intro key other
        exact kept key (ne_of_mem_of_not_mem start_mem other).symm
      · rw [Document.memberAt_setWithin]
        exact begun
      · rw [Document.memberAt_setWithin]
        simp only [Turn.notReady, unasked]
        exact (kept "iteration" (by decide)).trans counted
  | @passed start error opened after started inTime ran =>
      obtain ⟨rfl, scope, called⟩ := called_of_nested started found held counted rfl ran
      rw [called.events]
      refine ⟨.of_answer inTime rfl (.passed rfl ?_) ?_, .of_more rfl ?_ ?_⟩
      · rw [Document.memberAt_setWithin, called.operation]
      · exact Document.sameBut_setWithin start_mem called.same
      · rw [Document.memberAt_setWithin, called.started]
        rfl
      · rw [Document.memberAt_setWithin, called.counted]
        rfl
  | @ready start value opened after started inTime ran =>
      obtain ⟨rfl, scope, called⟩ := called_of_nested started found held counted rfl ran
      rw [called.events]
      refine ⟨.of_answer inTime rfl (.ready rfl ?_) ?_, .of_success rfl ?_ ?_⟩
      · intro key member
        rw [Document.memberAt_setWithin, get?_cleared_of_mem member]
      · apply Document.sameBut_setWithin start_mem
        intro key other
        exact (get?_cleared_of_not_mem other _).trans (called.same key other)
      · rw [Document.memberAt_setWithin, get?_cleared_of_mem (by decide)]
      · rw [Document.memberAt_setWithin, get?_cleared_of_mem (by decide)]
  | @uncounted start problem opened after started inTime ran unread =>
      obtain ⟨rfl, scope, called⟩ := called_of_nested started found held counted rfl ran
      rw [getOr_counter called.counted] at unread
      cases unread
  | @waits start iterations opened after started inTime ran read =>
      obtain ⟨rfl, scope, called⟩ := called_of_nested started found held counted rfl ran
      rw [getOr_counter called.counted] at read
      cases read
      rw [called.events, Place.root_descend]
      have others (key : String) (other : key ≠ "iteration") (iterations : Nat) :
          Table.get? key (Polling.counted after.here iterations) = Table.get? key after.here :=
        Table.get?_insert_of_ne other ..
      refine ⟨.of_answer inTime rfl (.notReady rfl ?_) ?_, .of_more rfl ?_ ?_⟩
      · rw [Document.memberAt_setWithin, others "operation" (by decide), called.operation]
      · apply Document.sameBut_setWithin start_mem
        intro key other
        have apart : key ≠ "iteration" := (ne_of_mem_of_not_mem (by decide) other).symm
        exact (others key apart _).trans (called.same key other)
      · rw [Document.memberAt_setWithin, others "start_time" (by decide), called.started]
        rfl
      · rw [Document.memberAt_setWithin, Polling.counted, Table.get?_insert_self]
        exact (counter_succ _).symm

/-- In a series of checks, the scope of a wait tells at each turn when the first check was since
the operation was last ready, and how often it has not been ready since then; whether a check is
late and how long it suspends goes by these two. -/
theorem waits_follow_history {polling : Polling} (timed : Timed polling) (path : List String)
    (document : Document) (calls : List (Call World (Option α)))
    {before after : List (Turn α (Option α))} {now : Turn α (Option α)}
    (unstarted : document.memberAt (path ++ [polling.key]) "start_time" = none)
    (uncounted : document.memberAt (path ++ [polling.key]) "iteration" = none)
    (split : turns path polling.awaitReady document calls = before ++ now :: after) :
    Keeps polling path before now.given ∧
      Waited polling path ((startOf polling before).getD (polling.read now.clock))
        (countSince Turn.notReady before) now ∧
      Keeps polling path (before ++ [now]) now.left := by
  have start : Keeps polling path ([] : List (Turn α (Option α))) document := ⟨unstarted, uncounted⟩
  obtain ⟨call, same, keeps⟩ := turns_split (Keeps polling path)
    (fun _ call _ keeps => (wait_turn timed path call keeps).2) start split
  rw [List.nil_append] at keeps
  have turned := wait_turn timed path call keeps
  rw [← same] at turned
  exact ⟨keeps, turned⟩

/-- Waits ten seconds for the lift. -/
def lift : Polling := { Polling.withKey "lift" with timeout := some (.ofSeconds 10) }

def asking (millis : Int) (operation : Action Unit (Option Bool)) : Call Unit (Option Bool) :=
  ⟨operation, .empty, [], ⟨millis⟩, ()⟩

def lifted : List (Turn Bool (Option Bool)) :=
  turns ["house"] lift.awaitReady []
    [asking 1000 (pure (some true)), asking 5000 (pure none), asking 2000 (Action.suspend 60),
      asking 15000 (pure (some true))]

/-- The lift was ready once, and since then it is not. The clock goes back in between, but ten
seconds after the first check that found it away it is no longer looked for. -/
theorem late_check_does_not_look :
    ∃ now, lifted = lifted.take 3 ++ [now] ∧
      now.given.memberAt ["house", "lift"] "start_time" = some (.int 5000) ∧
      now.given.memberAt ["house", "lift"] "iteration" = some (.nat 1) ∧ now.answers = [] ∧
      now.result = .error (.pollingTimeout Polling.defaultMessage (.ofSeconds 10)) := by
  have timed : Timed lift := timed_withKey "lift"
  have split : lifted = lifted.take 3 ++ [lifted[3]] := by rfl
  obtain ⟨given, waited, _⟩ := waits_follow_history timed ["house"] [] _ rfl rfl split
  have start : startOf lift (lifted.take 3) = some 5000 := by decide +kernel
  have once : countSince Turn.notReady (lifted.take 3) = 1 := by decide +kernel
  have begun := given.started
  have counted := given.counted
  rw [start] at begun waited
  rw [once] at counted
  obtain ⟨answers, result, _⟩ := waited.late (.ofSeconds 10) rfl (by decide +kernel)
  exact ⟨_, split, begun, counted, answers, result⟩

end Resumable.Series
