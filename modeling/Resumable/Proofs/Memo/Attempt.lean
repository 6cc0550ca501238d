import Resumable.Proofs.Memo.Run
import Resumable.Proofs.Turn

/-!
Attempts at a task whose code keeps results, driven by the host through the operator. An invocation
that ends with a suspension of the task's own hands on all that it has recorded. One that fails and
is retried as a whole hands on what it was given: what it recorded itself is lost, and its
operations are called again.
-/

namespace Resumable

/-- What the code of a turn has noted of its steps. -/
def Turn.events {World : Type} {results : Memo.Results}
    (turn : Turn (Memo.Noted World (Memo.Event results))) : List (Memo.Event results) :=
  turn.invocation.world.events

theorem Turn.events_eq {World : Type} {results : Memo.Results}
    (turn : Turn (Memo.Noted World (Memo.Event results))) :
    turn.events = turn.ran.2.world.events := by
  rw [events, invocation, Operator.invoke_world, ran]

namespace Memo

variable {World : Type} {results : Results}

/-- The first event of a key, if there is one, is a call. -/
def CallsFirst (key : String) (events : List (Event results)) : Prop :=
  ∀ event, events.find? (fun event => event.key = key) = some event → event = .invoked key

structure Opens (results : Results) (key : String) (before : Document)
    (events : List (Event results)) (after : Document) : Prop where
  settled : ¬ Due results .once key before →
    .invoked key ∉ events ∧ after.child key = before.child key
  due : Due results .once key before →
    (∀ event ∈ events, event.key ≠ key) ∧ after.child key = before.child key ∨
      events.find? (fun event => event.key = key) = some (.invoked key)

namespace Opens

variable {key : String} {before middle after : Document}
  {events first second : List (Event results)}

theorem elsewhere (others : ∀ event ∈ events, event.key ≠ key)
    (same : after.child key = before.child key) : Opens results key before events after where
  settled _ := ⟨fun member => others _ member rfl, same⟩
  due _ := .inl ⟨others, same⟩

theorem trans (left : Opens results key before first middle)
    (right : Opens results key middle second after) :
    Opens results key before (first ++ second) after where
  settled settled := by
    obtain ⟨early, kept⟩ := left.settled settled
    obtain ⟨late, last⟩ := right.settled (mt (due_congr kept).mp settled)
    constructor
    · intro member
      rcases List.mem_append.mp member with here | there
      · exact early here
      · exact late there
    · exact last.trans kept
  due due := by
    rcases left.due due with ⟨silent, kept⟩ | called
    · have none : first.find? (fun event => event.key = key) = none := by
        simpa using silent
      rcases right.due ((due_congr kept).mpr due) with ⟨quiet, last⟩ | called
      · have both : ∀ event ∈ first ++ second, event.key ≠ key := by
          intro event member
          rcases List.mem_append.mp member with here | there
          · exact silent event here
          · exact quiet event there
        exact .inl ⟨both, last.trans kept⟩
      · rw [List.find?_append, none, called]
        exact .inr rfl
    · rw [List.find?_append, called]
      exact .inr rfl

theorem of_executed (executed : Executed results .once key before events after) :
    Opens results key before events after := by
  cases executed with
  | recalled settled _ same =>
      constructor
      · intro _
        exact ⟨by simp, same⟩
      · intro due
        exact absurd due settled
  | stopped due called =>
      rcases called with rfl | ⟨awaited, _⟩
      · constructor
        · intro settled
          exact absurd due settled
        · intro _
          exact .inr (by simp [Event.key])
      · cases awaited
  | succeeded due _ =>
      constructor
      · intro settled
        exact absurd due settled
      · intro _
        exact .inr (by simp [Event.key])

theorem composes (key : String) : Composes results .once key (Opens results key) where
  elsewhere := .elsewhere
  trans := .trans
  executed _ := .of_executed

end Opens

/-- What the code of a task does in one invocation: its steps, and what it does after the last. -/
structure Script (World : Type) (results : Results) extends Invocation World results where
  finish : Action World TaskResult
  resetKeys : List String
  retryByDefault : Bool

namespace Script

def operator (script : Script World results) : Operator (Noted World (Event results)) where
  run _ _ := Action.bind (runSteps script.steps) fun _ => unseen script.finish
  resetKeys := script.resetKeys
  retryByDefault := script.retryByDefault

def visit (script : Script World results) : Visit (Noted World (Event results)) :=
  ⟨script.operator, script.clock, ⟨script.world, []⟩⟩

/-- The frame that the first step meets. -/
def start (script : Script World results) (document : Document) :
    Frame (Noted World (Event results)) :=
  ⟨document, .empty, [], script.clock, ⟨script.world, []⟩⟩

/-- Suspensions of the operator carry the root document as it is then. -/
def Snapshots (script : Script World results) : Prop :=
  (∀ step ∈ script.steps, step.Snapshots) ∧ script.finish.Snapshots

/-- Code outside the step of a key does not write its member. -/
def LeavesAlone (script : Script World results) (key : String) : Prop :=
  (∀ step ∈ script.steps, step.LeavesAlone key) ∧ ∀ place frame,
    Table.get? key (script.finish place frame).2.here = Table.get? key frame.here

end Script

/-- What is asked of a visit to follow a key that runs once through it. -/
structure Suits (visit : Visit (Noted World (Event results))) (key : String) : Prop where
  holds : ∀ {Says : Document → List (Event results) → Document → Prop},
    Composes results .once key Says → ∀ request,
      Says request.lastStateParams (Turn.events ⟨visit, request⟩) (Turn.ran ⟨visit, request⟩).2.here
  snapshots : ∀ name config, (visit.operator.run name config).Snapshots
  kept : key ∉ visit.operator.resetKeys

namespace Script

variable {script : Script World results}

theorem snapshots_operator (snapshots : script.Snapshots) (name : String) (config : Config) :
    (script.operator.run name config).Snapshots :=
  Action.snapshots_bind (snapshots_runSteps snapshots.1) fun _ => snapshots_unseen snapshots.2

theorem ran_eq (script : Script World results) (request : TaskRequest) :
    Turn.ran ⟨script.visit, request⟩ =
      Action.bind (runSteps script.steps) (fun _ => unseen script.finish) .top
        (script.start request.lastStateParams) := by
  rfl

theorem holds {key : String} {Says : Document → List (Event results) → Document → Prop}
    (composes : Composes results .once key Says)
    (steps : ∀ step ∈ script.steps, step.Suits .once key) (apart : script.LeavesAlone key)
    (request : TaskRequest) :
    Says request.lastStateParams (Turn.events ⟨script.visit, request⟩)
      (Turn.ran ⟨script.visit, request⟩).2.here := by
  obtain ⟨events, noted, said⟩ :=
    composes.runSteps steps .top (script.start request.lastStateParams)
  simp only [Turn.events_eq, ran_eq, Action.bind]
  generalize Memo.runSteps script.steps .top (script.start request.lastStateParams) = after
    at noted said ⊢
  obtain ⟨result, frame⟩ := after
  simp only [start, List.nil_append] at noted said
  cases result with
  | error error =>
      simp only [noted]
      exact said
  | ok done =>
      have quiet : Says frame.here []
          (script.finish .top (frame.withWorld frame.world.world)).2.here :=
        composes.elsewhere (by simp)
          (child_of_get? (apart.2 .top (frame.withWorld frame.world.world)))
      simp only [unseen, Frame.withWorld, noted]
      have whole := composes.trans said quiet
      rw [List.append_nil] at whole
      exact whole

theorem suits {key : String} (steps : ∀ step ∈ script.steps, step.Suits .once key)
    (apart : script.LeavesAlone key) (snapshots : script.Snapshots)
    (kept : key ∉ script.resetKeys) : Suits script.visit key where
  holds composes request := holds composes steps apart request
  snapshots := snapshots_operator snapshots
  kept := kept

end Script

/-- How a turn ends, and the document that it hands to the next one, if there is one. -/
inductive Ended (turn : Turn (Noted World (Event results))) : Prop where
  | suspended (calm : turn.isRetry = false)
      (next : turn.next = some (turn.request.withState turn.ran.2.here))
  | retried {policy : RetryPolicy} (again : turn.isRetry = true)
      (given : policy.state = turn.request.lastStateParams)
      (next : turn.next = some (turn.request.withState (turn.visit.operator.resumed policy)))
  | closed (calm : turn.isRetry = false) (next : turn.next = none)

theorem ended {turn : Turn (Noted World (Event results))}
    (snapshots : ∀ name config, (turn.visit.operator.run name config).Snapshots) : Ended turn := by
  cases turn.taken with
  | completed _ last => exact .closed (Turn.isRetry_of_last last) last
  | @suspended suspension frame calm stopped next =>
      have carried : suspension.state = frame.here := snapshots _ _ _ _ _ _ stopped
      refine .suspended (Turn.isRetry_of_calm calm) ?_
      rw [next, stopped, carried]
  | unreadable _ _ last => exact .closed (Turn.isRetry_of_last last) last
  | retried fell prepared _ _ next =>
      exact .retried (Turn.isRetry_of_answered fell next) (RetryPolicy.prepare_state prepared) next
  | failed _ _ _ _ last => exact .closed (Turn.isRetry_of_last last) last

theorem child_resumed {visit : Visit (Noted World (Event results))} {key : String}
    (suits : Suits visit key) {request : TaskRequest} {policy : RetryPolicy}
    (given : policy.state = request.lastStateParams) (apart : key ≠ RetryPolicy.countKey) :
    (visit.operator.resumed policy).child key = request.lastStateParams.child key := by
  rw [← given]
  exact child_of_get? (Operator.get?_resumed suits.kept apart)

theorem due_of_empty {key : String} {scope : Document} (empty : scope.child key = []) :
    Due results .once key scope := by
  rw [Due, empty]
  rfl

-- The count of the retries is no scope, so a step under its key starts over.
theorem due_resumed_count {visit : Visit (Noted World (Event results))}
    (suits : Suits visit RetryPolicy.countKey) (policy : RetryPolicy) :
    Due results .once RetryPolicy.countKey (visit.operator.resumed policy) := by
  apply due_of_empty
  rw [Document.child, Operator.get?_resumed_count suits.kept]
  rfl

theorem due_resumed {visit : Visit (Noted World (Event results))} {key : String}
    (suits : Suits visit key) {request : TaskRequest} {policy : RetryPolicy}
    (given : policy.state = request.lastStateParams)
    (due : Due results .once key request.lastStateParams) :
    Due results .once key (visit.operator.resumed policy) := by
  by_cases counts : key = RetryPolicy.countKey
  · subst counts
    exact due_resumed_count suits policy
  · exact (due_congr (child_resumed suits given counts)).mpr due

-- A step that has not run yet is called when it is first reached, in this invocation or later.
theorem attempt_calls {key : String} {visits : List (Visit (Noted World (Event results)))}
    (suits : ∀ visit ∈ visits, Suits visit key) {request : TaskRequest}
    (due : Due results .once key request.lastStateParams) :
    CallsFirst key ((attempt request visits).flatMap Turn.events) := by
  induction visits generalizing request with
  | nil => simp [CallsFirst, attempt]
  | cons visit rest ih =>
      have fits := suits visit List.mem_cons_self
      have later := fun other member => suits other (List.mem_cons_of_mem visit member)
      have happened : Ended ⟨visit, request⟩ := ended fits.snapshots
      rw [attempt, List.flatMap_cons]
      intro event first
      rw [List.find?_append] at first
      rcases (fits.holds (Opens.composes key) request).due due with ⟨silent, same⟩ | called
      · have none : (Turn.events ⟨visit, request⟩).find? (fun event => event.key = key) = none := by
          simpa using silent
        rw [none, Option.none_or] at first
        cases happened with
        | suspended _ next =>
            rw [next] at first
            exact ih later ((due_congr same).mpr due) event first
        | retried _ given next =>
            rw [next] at first
            exact ih later (due_resumed fits given due) event first
        | closed _ next => simp [next] at first
      · rw [called, Option.some_or, Option.some.injEq] at first
        exact first.symm

-- A value that a document keeps is only recalled, as long as it is not under the key of the count
-- when the task is retried as a whole.
theorem attempt_recalls {key : String} {value : results.Value key}
    {visits : List (Visit (Noted World (Event results)))}
    (suits : ∀ visit ∈ visits, Suits visit key) {request : TaskRequest}
    (keeps : Keeps results .once key value request.lastStateParams)
    (safe : key = RetryPolicy.countKey →
      ∀ turn ∈ attempt request visits, turn.isRetry = false) :
    Recalls key value ((attempt request visits).flatMap Turn.events) := by
  induction visits generalizing request with
  | nil => simp [Recalls, attempt]
  | cons visit rest ih =>
      have fits := suits visit List.mem_cons_self
      have later := fun other member => suits other (List.mem_cons_of_mem visit member)
      obtain ⟨recalled, kept⟩ := (fits.holds (Tells.composes .once key) request).recalls value keeps
      have happened : Ended ⟨visit, request⟩ := ended fits.snapshots
      rw [attempt, List.flatMap_cons]
      apply recalled.append
      rw [attempt] at safe
      cases happened with
      | suspended _ next =>
          rw [next] at safe ⊢
          exact ih later kept fun counts turn member =>
            safe counts turn (List.mem_cons_of_mem _ member)
      | retried again given next =>
          -- Under the key of the count the value would be written over.
          have apart : key ≠ RetryPolicy.countKey := by
            intro counts
            rw [safe counts _ List.mem_cons_self] at again
            cases again
          rw [next]
          refine ih later ?_ fun counts => absurd counts apart
          exact (keeps_congr (child_resumed fits given apart)).mpr keeps
      | closed _ next =>
          rw [next]
          simp [Recalls]

/-- An operation that runs once and has succeeded in a turn is never called again, unless the turn
was retried as a whole. If it was, the operation is called anew when its step is next reached. -/
theorem success_survives_unless_retried (results : Results) (code : List (Mode × String))
    (distinct : (code.map Prod.snd).Nodup)
    (lawful : ∀ part ∈ code, (results.codec part.2).Lawful)
    (present : ∀ key, (.awaited, key) ∈ code →
      ∀ value, (results.codec key).encode value ≠ .ok .null)
    (request : TaskRequest) (scripts : List (Script World results))
    (listed : ∀ script ∈ scripts, ∀ step ∈ script.steps, ∀ part,
      step.memo? = some part → part ∈ code)
    (snapshots : ∀ script ∈ scripts, script.Snapshots)
    (key : String) (once : (.once, key) ∈ code)
    (apart : ∀ script ∈ scripts, script.LeavesAlone key)
    (kept : ∀ script ∈ scripts, key ∉ script.resetKeys)
    (earlier later : List (Turn (Noted World (Event results))))
    (turn : Turn (Noted World (Event results)))
    (happened : attempt request (scripts.map Script.visit) = earlier ++ turn :: later) :
    (∀ value, turn.isRetry = false → .succeeded key value ∈ turn.events →
        (key = RetryPolicy.countKey → ∀ next ∈ later, next.isRetry = false) →
        ∀ event ∈ later.flatMap Turn.events, event.key = key →
          event = .finished key (.ok value)) ∧
      (turn.isRetry = true →
        (.invoked key ∈ turn.events ∨ key = RetryPolicy.countKey) →
        ∀ event, (later.flatMap Turn.events).find? (fun event => event.key = key) = some event →
          event = .invoked key) := by
  have suits : ∀ visit ∈ scripts.map Script.visit, Suits visit key := by
    intro visit chosen
    obtain ⟨script, member, rfl⟩ := List.mem_map.mp chosen
    refine Script.suits ?_ (apart script member) (snapshots script member) (kept script member)
    intro step inside
    exact suits_of_listed lawful present (mode_of_key distinct once)
      (listed script member step inside) ((apart script member).1 step inside)
  obtain ⟨member, rest, sub, rfl⟩ := attempt_split happened
  have fits := suits turn.visit member
  have others : ∀ other ∈ rest, Suits other key := by
    intro other inside
    exact suits other (sub other inside)
  have finished : Ended turn := ended fits.snapshots
  constructor
  · intro value carried succeeded safe
    cases finished with
    | suspended _ next =>
        rw [next] at safe ⊢
        obtain ⟨before, after, split⟩ := List.append_of_mem succeeded
        have told := fits.holds (Tells.composes .once key) turn.request
        exact attempt_recalls others (told.records before value after split).2 safe
    | retried again _ _ =>
        rw [carried] at again
        cases again
    | closed _ next => simp [next]
  · intro again called
    cases finished with
    | suspended calm _ =>
        rw [calm] at again
        cases again
    | @retried policy _ same next =>
        rw [next]
        apply attempt_calls others
        rcases called with called | counts
        · -- A step whose operation is called was due in the document that the turn was given.
          have due : Due results .once key turn.request.lastStateParams := by
            by_contra settled
            have opened := fits.holds (Opens.composes key) turn.request
            exact (opened.settled settled).1 called
          exact due_resumed fits same due
        · subst counts
          exact due_resumed_count fits policy
    | closed calm _ =>
        rw [calm] at again
        cases again

def submitJob : Step Unit flags := .once (.withKey "submit") (Action.pure true)

/-- A load that fails is given up. -/
def loadJob (load : Action Unit Bool) : Step Unit flags :=
  .once { Retry.withKey "load" with predicates := [fun _ => false] } load

/-- Submits a job once, then loads what it gives. -/
def loadScript (load : Action Unit Bool) : Script Unit flags where
  steps := [submitJob, loadJob load]
  finish := Action.pure .empty
  resetKeys := []
  retryByDefault := false
  clock := ⟨0⟩
  world := ()

def failedScript : Script Unit flags := loadScript (Action.fail (.other (.text "gone")))

def loadRequest : TaskRequest := ⟨"attempt-1", "+load", ⟨[("_retry", .nat 1)]⟩, []⟩

def lost : TaskError := .failed "Operation failed" (.text "gone")

def submitEvents : List (Event flags) :=
  [.invoked "submit", .succeeded "submit" true, .finished "submit" (.ok true)]

theorem run_submitJob :
    submitJob.run .top (jobFrame [] []) =
      (.ok (), jobFrame [("submit", keptFlag)] submitEvents) := by
  rfl

theorem ran_loadScript {load : Action Unit Bool} {request : TaskRequest}
    {middle : Frame (Noted Unit (Event flags))} {error : TaskError}
    (submitted : submitJob.run .top (jobFrame request.lastStateParams []) = (.ok (), middle))
    (stopped : ((loadJob load).run .top middle).1 = .error error) :
    Turn.ran ⟨(loadScript load).visit, request⟩ =
      (.error error, ((loadJob load).run .top middle).2) := by
  have steps : runSteps (loadScript load).steps .top (jobFrame request.lastStateParams []) =
      (.error error, ((loadJob load).run .top middle).2) := by
    rw [loadScript, runSteps_of_ok submitted]
    exact runSteps_of_error (Prod.ext stopped rfl)
  rw [Script.ran_eq, Action.bind, show (loadScript load).start _ = jobFrame _ _ from rfl, steps]

/-- The document that the retry is given: nothing of the submission is left. -/
def countedState : Document := [("retry_count", .nat 1)]

/-- The job is submitted again by the retry, though its submission succeeded and is not reset. -/
theorem recorded_success_is_lost :
    ((attempt loadRequest [failedScript.visit, failedScript.visit]).map Turn.isRetry =
        [true, false] ∧
      ∀ turn ∈ attempt loadRequest [failedScript.visit, failedScript.visit],
        .invoked "submit" ∈ turn.events ∧ .succeeded "submit" true ∈ turn.events) ∧
      "submit" ∉ failedScript.resetKeys := by
  have first : Turn.ran ⟨failedScript.visit, loadRequest⟩ = (.error lost, _) :=
    ran_loadScript run_submitJob (by rfl)
  have again : submitJob.run .top (jobFrame countedState []) =
      (.ok (), jobFrame [("retry_count", .nat 1), ("submit", keptFlag)] submitEvents) := by
    rfl
  have second : Turn.ran ⟨failedScript.visit, loadRequest.withState countedState⟩ =
      (.error lost, _) :=
    ran_loadScript again (by rfl)
  have retried : Turn.next ⟨failedScript.visit, loadRequest⟩ =
      some (loadRequest.withState countedState) := by
    rw [Turn.next, Turn.outcome_of_failed first rfl]
    rfl
  have closed : Turn.next ⟨failedScript.visit, loadRequest.withState countedState⟩ = none := by
    rw [Turn.next, Turn.outcome_of_failed second rfl]
    rfl
  have happened : attempt loadRequest [failedScript.visit, failedScript.visit] =
      [⟨failedScript.visit, loadRequest⟩,
        ⟨failedScript.visit, loadRequest.withState countedState⟩] := by
    simp only [attempt, retried, closed, Option.elim]
  refine ⟨⟨by decide +kernel, ?_⟩, List.not_mem_nil⟩
  intro turn member
  simp only [happened, List.mem_cons, List.not_mem_nil, or_false] at member
  rw [Turn.events_eq]
  rcases member with rfl | rfl
  · rw [first]
    exact ⟨.head _, .tail _ (.head _)⟩
  · rw [second]
    exact ⟨.head _, .tail _ (.head _)⟩

theorem loadScript_listed (load : Action Unit Bool) :
    ∀ step ∈ (loadScript load).steps, ∀ part, step.memo? = some part →
      part ∈ [(Mode.once, "submit"), (Mode.once, "load")] := by
  intro step member part memo
  simp only [loadScript, List.mem_cons, List.not_mem_nil, or_false] at member
  rcases member with rfl | rfl <;> cases memo <;> decide

theorem loadScript_snapshots {load : Action Unit Bool} (inner : load.Snapshots) :
    (loadScript load).Snapshots := by
  constructor
  · intro step member
    simp only [loadScript, List.mem_cons, List.not_mem_nil, or_false] at member
    rcases member with rfl | rfl
    · exact Action.snapshots_of_quiet (Action.quiet_pure true)
    · exact inner
  · exact Action.snapshots_of_quiet (Action.quiet_pure TaskResult.empty)

theorem loadScript_leavesAlone (load : Action Unit Bool) (key : String) :
    (loadScript load).LeavesAlone key := by
  constructor
  · intro step member
    simp only [loadScript, List.mem_cons, List.not_mem_nil, or_false] at member
    rcases member with rfl | rfl <;> trivial
  · intro place frame
    rfl

/-- A wait between the two steps carries the submission, which the later retry leaves alone. -/
def carriedScripts : List (Script Unit flags) :=
  [loadScript (Action.suspend 5), failedScript, failedScript]

def carriedState : Document := [("load", .object [("operation", .object [])]), ("submit", keptFlag)]

theorem carried_success_survives :
    let turns := attempt loadRequest (carriedScripts.map Script.visit)
    turns.map Turn.isRetry = [false, true, false] ∧
      (∀ event ∈ (turns.drop 1).flatMap Turn.events,
        event.key = "submit" → event = .finished "submit" (.ok true)) ∧
      ∀ event, ((turns.drop 2).flatMap Turn.events).find? (fun event => event.key = "load") =
        some event → event = .invoked "load" := by
  have first : Turn.ran ⟨(loadScript (Action.suspend 5)).visit, loadRequest⟩ =
      (.error (.suspended (.of 5 carriedState)), _) :=
    ran_loadScript run_submitJob (by rfl)
  have recalled : submitJob.run .top (jobFrame carriedState []) =
      (.ok (), jobFrame carriedState [.finished "submit" (.ok true)]) := by
    rfl
  have second : Turn.ran ⟨failedScript.visit, loadRequest.withState carriedState⟩ =
      (.error lost, _) :=
    ran_loadScript recalled (by rfl)
  have happened : attempt loadRequest (carriedScripts.map Script.visit) =
      ⟨(loadScript (Action.suspend 5)).visit, loadRequest⟩ ::
        attempt (loadRequest.withState carriedState) [failedScript.visit, failedScript.visit] := by
    simp only [carriedScripts, List.map_cons, List.map_nil]
    rw [attempt, Turn.next_of_stopped first]
    rfl
  have member : ∀ script ∈ carriedScripts, ∃ load,
      script = loadScript load ∧ load.Snapshots := by
    intro script chosen
    simp only [carriedScripts, failedScript, List.mem_cons, List.not_mem_nil, or_false] at chosen
    rcases chosen with rfl | rfl | rfl
    · exact ⟨_, rfl, Action.snapshots_suspend 5⟩
    · exact ⟨_, rfl, Action.snapshots_of_quiet (Action.quiet_fail rfl)⟩
    · exact ⟨_, rfl, Action.snapshots_of_quiet (Action.quiet_fail rfl)⟩
  have whole := success_survives_unless_retried flags [(.once, "submit"), (.once, "load")]
    (by decide) (fun part _ => lawful_flags part.2) (by simp) loadRequest carriedScripts
    (fun script chosen => by
      obtain ⟨load, rfl, _⟩ := member script chosen
      exact loadScript_listed load)
    (fun script chosen => by
      obtain ⟨load, rfl, inner⟩ := member script chosen
      exact loadScript_snapshots inner)
  have apart : ∀ key, ∀ script ∈ carriedScripts, script.LeavesAlone key := by
    intro key script chosen
    obtain ⟨load, rfl, _⟩ := member script chosen
    exact loadScript_leavesAlone load key
  have kept : ∀ key, ∀ script ∈ carriedScripts, key ∉ script.resetKeys := by
    intro key script chosen
    obtain ⟨load, rfl, _⟩ := member script chosen
    exact List.not_mem_nil
  have recalls := whole "submit" (by decide) (apart "submit") (kept "submit") [] _ _ happened
  have calls := whole "load" (by decide) (apart "load") (kept "load") [_] _ _ happened
  refine ⟨by decide +kernel, ?_, ?_⟩
  · rw [happened]
    refine recalls.1 true (by decide +kernel) ?_ (by decide)
    rw [Turn.events_eq, first]
    exact .tail _ (.head _)
  · rw [happened]
    refine calls.2 (by decide +kernel) (.inl ?_)
    rw [Turn.events_eq, second]
    exact .tail _ (.head _)

end Memo

end Resumable
