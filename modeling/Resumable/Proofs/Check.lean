import Resumable.Polling

/-!
What one check of a wait can come to, one case for each end, with the document it leaves in the
scope of the wait. The time of the first check is settled before anything else; a wait past its
deadline does not call its operation.
-/

namespace Resumable.Polling

variable {World α : Type}

/-- The frame of a wait once the time of its first check is known. -/
inductive Started (now : Int) (frame : Frame World) : Int → Frame World → Prop where
  | earlier {start : Int} (read : frame.here.get .signed "start_time" = .ok (some start)) :
      Started now frame start frame
  | now (absent : frame.here.get .signed "start_time" = .ok none) :
      Started now frame now
        { frame with here := Table.insert "start_time" (.int now) frame.here }

def Overdue (polling : Polling) (start now : Int) (timeout : Span) : Prop :=
  polling.timeout = some timeout ∧ limit timeout ≤ elapsed start now

/-- The document of a wait after one more answer "not ready". -/
def counted (here : Document) (iterations : Nat) : Document :=
  Table.insert "iteration" (.nat (min (iterations + 1) maxCount)) here

/-- The document of a wait that is over. -/
def cleared (here : Document) : Document :=
  Table.erase "start_time" (Table.erase "iteration" (Table.erase "operation" here))

/-- The result and the frame a check ends with, in the scope of the wait. -/
inductive Checked (polling : Polling) (operation : Action World (Option α)) (place : Place)
    (frame : Frame World) : Except TaskError α → Frame World → Prop where
  | unstarted {problem : StateError}
      (unread : frame.here.get .signed "start_time" = .error problem) :
      Checked polling operation place frame (.error (.state problem)) frame
  | expired {start : Int} {timeout : Span} {opened : Frame World}
      (started : Started (polling.read frame.clock) frame start opened)
      (overdue : polling.Overdue start (polling.read frame.clock) timeout) :
      Checked polling operation place frame
        (.error (.pollingTimeout polling.message timeout))
        { opened with
          log := opened.log ++ [.pollingTimedOut polling.message polling.key
            (elapsed start (polling.read frame.clock)) timeout] }
  | passed {start : Int} {error : TaskError} {opened after : Frame World}
      (started : Started (polling.read frame.clock) frame start opened)
      (inTime : ∀ timeout, ¬ polling.Overdue start (polling.read frame.clock) timeout)
      (ran : Action.nested "operation" operation place opened = (.error error, after)) :
      Checked polling operation place frame (.error error) after
  | ready {start : Int} {value : α} {opened after : Frame World}
      (started : Started (polling.read frame.clock) frame start opened)
      (inTime : ∀ timeout, ¬ polling.Overdue start (polling.read frame.clock) timeout)
      (ran : Action.nested "operation" operation place opened = (.ok (some value), after)) :
      Checked polling operation place frame (.ok value) { after with here := cleared after.here }
  | uncounted {start : Int} {problem : StateError} {opened after : Frame World}
      (started : Started (polling.read frame.clock) frame start opened)
      (inTime : ∀ timeout, ¬ polling.Overdue start (polling.read frame.clock) timeout)
      (ran : Action.nested "operation" operation place opened = (.ok none, after))
      (unread : after.here.getOr .count "iteration" 0 = .error problem) :
      Checked polling operation place frame (.error (.state problem)) after
  | waits {start : Int} {iterations : Nat} {opened after : Frame World}
      (started : Started (polling.read frame.clock) frame start opened)
      (inTime : ∀ timeout, ¬ polling.Overdue start (polling.read frame.clock) timeout)
      (ran : Action.nested "operation" operation place opened = (.ok none, after))
      (read : after.here.getOr .count "iteration" 0 = .ok iterations) :
      Checked polling operation place frame
        (.error (.suspended
          (.of (polling.interval.backoff iterations polling.base)
            (place.root (counted after.here iterations)))))
        { after with
          here := counted after.here iterations
          log := after.log ++ [.notReady polling.message polling.key iterations
            (polling.interval.backoff iterations polling.base)] }

theorem Started.unique {now start other : Int} {frame opened another : Frame World}
    (first : Started now frame start opened) (second : Started now frame other another) :
    other = start ∧ another = opened := by
  cases first with
  | earlier read =>
      cases second with
      | earlier again =>
          rw [read] at again
          cases again
          exact ⟨rfl, rfl⟩
      | now absent =>
          rw [read] at absent
          cases absent
  | now absent =>
      cases second with
      | earlier read =>
          rw [absent] at read
          cases read
      | now _ => exact ⟨rfl, rfl⟩

theorem Started.world {now start : Int} {frame opened : Frame World}
    (started : Started now frame start opened) : opened.world = frame.world := by
  cases started <;> rfl

theorem startTime_of_started {now start : Int} {frame opened : Frame World}
    (started : Started now frame start opened) (place : Place) :
    startTime now place frame = (.ok start, opened) := by
  cases started with
  | earlier read =>
      simp only [startTime, bind, Action.bind, Action.get, read]
      rfl
  | now absent =>
      simp only [startTime, bind, Action.bind, Action.get, absent]
      rfl

theorem checkDeadline_of_inTime {polling : Polling} {start now : Int}
    (inTime : ∀ timeout, ¬ polling.Overdue start now timeout) (place : Place)
    (frame : Frame World) : polling.checkDeadline start now place frame = (.ok (), frame) := by
  cases given : polling.timeout with
  | none =>
      simp only [checkDeadline, given]
      rfl
  | some timeout =>
      have early : ¬ limit timeout ≤ elapsed start now := fun late => inTime timeout ⟨given, late⟩
      simp only [checkDeadline, given, early, if_false]
      rfl

-- A check that is not late comes to its operation.
theorem check_of_started {polling : Polling} {frame opened : Frame World} {start : Int}
    (started : Started (polling.read frame.clock) frame start opened)
    (inTime : ∀ timeout, ¬ polling.Overdue start (polling.read frame.clock) timeout)
    (operation : Action World (Option α)) (place : Place) :
    polling.check operation place frame =
      match Action.nested "operation" operation place opened with
      | (.ok (some value), after) => (.ok value, { after with here := cleared after.here })
      | (.ok none, after) => polling.notReady place after
      | (.error error, after) => (.error error, after) := by
  have begins := startTime_of_started started place
  have goes := checkDeadline_of_inTime inTime place opened
  simp only [check, bind, Action.bind, Action.clock, begins, goes]
  rcases Action.nested "operation" operation place opened with ⟨error | ⟨_ | value⟩, after⟩ <;> rfl

theorem started_cases (now : Int) (frame : Frame World) :
    (∃ problem, frame.here.get .signed "start_time" = .error problem) ∨
      ∃ start opened, Started now frame start opened := by
  cases read : frame.here.get .signed "start_time" with
  | error problem => exact .inl ⟨problem, rfl⟩
  | ok found =>
      cases found with
      | none => exact .inr ⟨now, _, .now read⟩
      | some start => exact .inr ⟨start, frame, .earlier read⟩

theorem check_of_unread {polling : Polling} {frame : Frame World} {problem : StateError}
    (unread : frame.here.get .signed "start_time" = .error problem)
    (operation : Action World (Option α)) (place : Place) :
    polling.check operation place frame = (.error (.state problem), frame) := by
  simp only [check, startTime, bind, Action.bind, Action.clock, Action.get, unread]
  rfl

theorem check_of_overdue {polling : Polling} {frame opened : Frame World} {start : Int}
    {timeout : Span} (started : Started (polling.read frame.clock) frame start opened)
    (overdue : polling.Overdue start (polling.read frame.clock) timeout)
    (operation : Action World (Option α)) (place : Place) :
    polling.check operation place frame =
      (.error (.pollingTimeout polling.message timeout),
        { opened with
          log := opened.log ++ [.pollingTimedOut polling.message polling.key
            (elapsed start (polling.read frame.clock)) timeout] }) := by
  obtain ⟨given, late⟩ := overdue
  have begins := startTime_of_started started place
  simp only [check, bind, Action.bind, Action.clock, begins, checkDeadline, given, late, if_true]
  rfl

theorem notReady_cases {polling : Polling} {operation : Action World (Option α)} {place : Place}
    {frame opened after : Frame World} {start : Int}
    (started : Started (polling.read frame.clock) frame start opened)
    (inTime : ∀ timeout, ¬ polling.Overdue start (polling.read frame.clock) timeout)
    (ran : Action.nested "operation" operation place opened = (.ok none, after)) :
    Checked polling operation place frame (polling.notReady (α := α) place after).1
      (polling.notReady (α := α) place after).2 := by
  cases read : after.here.getOr .count "iteration" 0 with
  | error problem =>
      simp only [notReady, bind, Action.bind, Action.getOr, read]
      exact .uncounted started inTime ran read
  | ok iterations =>
      simp only [notReady, bind, Action.bind, Action.getOr, read]
      exact .waits started inTime ran read

theorem check_cases (polling : Polling) (operation : Action World (Option α)) (place : Place)
    (frame : Frame World) :
    Checked polling operation place frame (polling.check operation place frame).1
      (polling.check operation place frame).2 := by
  rcases started_cases (polling.read frame.clock) frame with
    ⟨problem, unread⟩ | ⟨start, opened, started⟩
  · rw [check_of_unread unread]
    exact .unstarted unread
  · by_cases late : ∃ timeout, polling.Overdue start (polling.read frame.clock) timeout
    · obtain ⟨timeout, overdue⟩ := late
      rw [check_of_overdue started overdue]
      exact .expired started overdue
    · have inTime := not_exists.mp late
      rw [check_of_started started inTime]
      cases ran : Action.nested "operation" operation place opened with
      | mk result after =>
          cases result with
          | error error => exact .passed started inTime ran
          | ok answer =>
              cases answer with
              | none => exact notReady_cases started inTime ran
              | some value => exact .ready started inTime ran

theorem checked {polling : Polling} {operation : Action World (Option α)} {place : Place}
    {frame after : Frame World} {result : Except TaskError α}
    (ran : polling.check operation place frame = (result, after)) :
    Checked polling operation place frame result after := by
  have cases := check_cases polling operation place frame
  rwa [ran] at cases

theorem check_of_failed {polling : Polling} {operation : Action World (Option α)}
    {place : Place} {frame opened after : Frame World} {start : Int} {error : TaskError}
    (started : Started (polling.read frame.clock) frame start opened)
    (inTime : ∀ timeout, ¬ polling.Overdue start (polling.read frame.clock) timeout)
    (ran : Action.nested "operation" operation place opened = (.error error, after)) :
    polling.check operation place frame = (.error error, after) := by
  rw [check_of_started started inTime, ran]

theorem check_of_notReady {polling : Polling} {operation : Action World (Option α)}
    {place : Place} {frame opened after : Frame World} {start : Int} {iterations : Nat}
    (started : Started (polling.read frame.clock) frame start opened)
    (inTime : ∀ timeout, ¬ polling.Overdue start (polling.read frame.clock) timeout)
    (ran : Action.nested "operation" operation place opened = (.ok none, after))
    (read : after.here.getOr .count "iteration" 0 = .ok iterations) :
    ∃ suspension last,
      polling.check operation place frame = (.error (.suspended suspension), last) := by
  rw [check_of_started started inTime, ran]
  simp only [notReady, bind, Action.bind, Action.getOr, read]
  exact ⟨_, _, rfl⟩

inductive AwaitedOnce (polling : Polling) (codec : Json.Codec α)
    (operation : Action World (Option α)) (place : Place) (frame : Frame World) :
    Except TaskError α → Frame World → Prop where
  | unread {problem : StateError} (unread : frame.here.get codec "result" = .error problem) :
      AwaitedOnce polling codec operation place frame (.error (.state problem)) frame
  | recalled {value : α} (found : frame.here.get codec "result" = .ok (some value)) :
      AwaitedOnce polling codec operation place frame (.ok value) frame
  | stopped {error : TaskError} {after : Frame World}
      (unseen : frame.here.get codec "result" = .ok none)
      (ran : polling.check operation place frame = (.error error, after)) :
      AwaitedOnce polling codec operation place frame (.error error) after
  | unstored {value : α} {source : Json.WriteError} {after : Frame World}
      (unseen : frame.here.get codec "result" = .ok none)
      (ran : polling.check operation place frame = (.ok value, after))
      (refused : codec.encode value = .error source) :
      AwaitedOnce polling codec operation place frame
        (.error (.state (.encode "result" source))) after
  | stored {value : α} {stored : Json} {after : Frame World}
      (unseen : frame.here.get codec "result" = .ok none)
      (ran : polling.check operation place frame = (.ok value, after))
      (encoded : codec.encode value = .ok stored) :
      AwaitedOnce polling codec operation place frame (.ok value)
        { after with here := Table.insert "result" stored after.here }

theorem once_cases (polling : Polling) (codec : Json.Codec α)
    (operation : Action World (Option α)) (place : Place) (frame : Frame World) :
    AwaitedOnce polling codec operation place frame (polling.once codec operation place frame).1
      (polling.once codec operation place frame).2 := by
  cases read : frame.here.get codec "result" with
  | error problem =>
      simp only [once, bind, Action.bind, Action.get, read, Action.ofState, Action.fail]
      exact .unread read
  | ok found =>
      cases found with
      | some value =>
          simp only [once, bind, Action.bind, Action.get, read, Action.ofState, Action.pure]
          exact .recalled read
      | none =>
          simp only [once, bind, Action.bind, Action.get, read, Action.ofState, Action.pure]
          cases ran : polling.check operation place frame with
          | mk result after =>
              cases result with
              | error error => exact .stopped read ran
              | ok value =>
                  cases encoded : codec.encode value with
                  | error source =>
                      simp only [Action.set, Document.set, encoded]
                      exact .unstored read ran encoded
                  | ok stored =>
                      simp only [Action.set, Document.set, encoded]
                      exact .stored read ran encoded

theorem awaitedOnce {polling : Polling} {codec : Json.Codec α}
    {operation : Action World (Option α)} {place : Place} {frame after : Frame World}
    {result : Except TaskError α}
    (ran : polling.once codec operation place frame = (result, after)) :
    AwaitedOnce polling codec operation place frame result after := by
  have cases := once_cases polling codec operation place frame
  rwa [ran] at cases

-- Once the result is looked for, only the check itself can suspend.
theorem once_suspended {polling : Polling} {codec : Json.Codec α}
    {operation : Action World (Option α)} {place : Place} {frame after : Frame World}
    {suspension : Suspension}
    (ended : polling.once codec operation place frame = (.error (.suspended suspension), after)) :
    frame.here.get codec "result" = .ok none ∧
      polling.check operation place frame = (.error (.suspended suspension), after) := by
  cases awaitedOnce ended with
  | stopped unseen ran => exact ⟨unseen, ran⟩

theorem once_of_stopped {polling : Polling} {codec : Json.Codec α}
    {operation : Action World (Option α)} {place : Place} {frame after : Frame World}
    {error : TaskError} (unseen : frame.here.get codec "result" = .ok none)
    (ran : polling.check operation place frame = (.error error, after)) :
    polling.once codec operation place frame = (.error error, after) := by
  simp only [once, bind, Action.bind, Action.get, unseen, Action.ofState, Action.pure, ran]

end Resumable.Polling
