import Resumable.Proofs.Memo.Parts

/-!
Runs of a task whose steps keep their results. Each invocation starts from the document that the
suspension before it carries. Followed for one key, every part of a run either leaves the kept value
alone and only recalls it, or brings about the success that is then kept; parts that fit together
make a run with the same property. So an operation that has succeeded is not called again.
-/

namespace Resumable.Memo

variable {World : Type} {results : Results}

/-- Executions of a step return the value and call nothing. -/
def Recalls (key : String) (value : results.Value key) (events : List (Event results)) : Prop :=
  ∀ event ∈ events, event.key = key → event = .finished key (.ok value)

theorem Recalls.append {key : String} {value : results.Value key}
    {first second : List (Event results)} (before : Recalls key value first)
    (later : Recalls key value second) : Recalls key value (first ++ second) := by
  intro event member
  rcases List.mem_append.mp member with early | late
  · exact before event early
  · exact later event late

/-- A part of a run, from one scope to another, as far as one key is concerned. -/
structure Tells (results : Results) (mode : Mode) (key : String) (before : Document)
    (events : List (Event results)) (after : Document) : Prop where
  recalls : ∀ value, Keeps results mode key value before →
    Recalls key value events ∧ Keeps results mode key value after
  records : ∀ earlier value later, events = earlier ++ .succeeded key value :: later →
    Recalls key value later ∧ Keeps results mode key value after

namespace Tells

variable {mode : Mode} {key : String} {before middle after : Document}
  {events first second : List (Event results)}

theorem nothing (same : after.child key = before.child key) :
    Tells results mode key before [] after where
  recalls value keeps := by
    constructor
    · simp [Recalls]
    · exact (keeps_congr same).mpr keeps
  records earlier value later split := by simp at split

-- Parts about other keys say nothing of this one.
theorem elsewhere (others : ∀ event ∈ events, event.key ≠ key)
    (same : after.child key = before.child key) : Tells results mode key before events after where
  recalls value keeps := by
    constructor
    · intro event member here
      exact absurd here (others event member)
    · exact ((nothing same).recalls value keeps).2
  records earlier value later split := by
    have member := List.mem_iff_append.mpr ⟨earlier, later, split⟩
    exact absurd rfl (others _ member)

theorem trans (left : Tells results mode key before first middle)
    (right : Tells results mode key middle second after) :
    Tells results mode key before (first ++ second) after where
  recalls value keeps := by
    obtain ⟨early, kept⟩ := left.recalls value keeps
    obtain ⟨late, last⟩ := right.recalls value kept
    exact ⟨early.append late, last⟩
  records earlier value later split := by
    -- The success lies in one of the two parts; in the first, the second only recalls it.
    rcases List.append_eq_append_iff.mp split with ⟨gap, _, tail⟩ | ⟨gap, head, tail⟩
    · exact right.records gap value later tail
    · cases gap with
      | nil => exact right.records [] value later (by simpa using tail.symm)
      | cons event rest =>
          simp only [List.cons_append, List.cons.injEq] at tail
          obtain ⟨rfl, rfl⟩ := tail
          obtain ⟨early, kept⟩ := left.records earlier value rest head
          obtain ⟨late, last⟩ := right.recalls value kept
          exact ⟨early.append late, last⟩

theorem of_executed (storable : Storable results mode key)
    (executed : Executed results mode key before events after) :
    Tells results mode key before events after := by
  cases executed with
  | recalled settled agrees same =>
      constructor
      · intro value keeps
        constructor
        · intro event member _
          rw [List.mem_singleton.mp member, agrees value keeps]
        · exact ((nothing same).recalls value keeps).2
      · intro earlier value later split
        have member := List.mem_iff_append.mpr ⟨earlier, later, split⟩
        simp at member
  | stopped due called =>
      constructor
      · intro value keeps
        exact absurd due (not_due_of_keeps storable keeps)
      · intro earlier value later split
        have member := List.mem_iff_append.mpr ⟨earlier, later, split⟩
        rcases called with rfl | ⟨_, rfl⟩ <;> simp at member
  | succeeded due keeps =>
      constructor
      · intro value kept
        exact absurd due (not_due_of_keeps storable kept)
      · intro earlier value later split
        -- Of the three events only the second is a success, so only the end of the step follows.
        rcases earlier with _ | ⟨_, _ | ⟨_, _ | ⟨_, _⟩⟩⟩
        · simp at split
        · simp only [List.cons_append, List.nil_append, List.cons.injEq, Event.succeeded.injEq,
            heq_eq_eq, true_and] at split
          obtain ⟨_, rfl, rfl⟩ := split
          constructor
          · intro event member _
            exact List.mem_singleton.mp member
          · exact keeps
        · simp at split
        · simp at split

end Tells

theorem Tells.composes (mode : Mode) (key : String) :
    Composes results mode key (Tells results mode key) where
  elsewhere := .elsewhere
  trans := .trans
  executed := .of_executed

/-- One invocation of a task: its steps, with the clock and the world it finds. -/
structure Invocation (World : Type) (results : Results) where
  steps : List (Step World results)
  clock : Clock
  world : World

/-- Runs the steps in the scope at the end of a path. -/
def Invocation.run (invocation : Invocation World results) (path : List String)
    (document : Document) : Except TaskError Unit × Frame (Noted World (Event results)) :=
  (Action.nestedPath path (runSteps invocation.steps)).run document invocation.clock
    ⟨invocation.world, []⟩

/-- The events of a run. An invocation that ends otherwise than by a suspension is its last. -/
def history (path : List String) (document : Document) :
    List (Invocation World results) → List (Event results)
  | [] => []
  | invocation :: rest =>
      let (result, after) := invocation.run path document
      after.world.events ++
        match result with
        | .error (.suspended suspension) => history path suspension.state rest
        | _ => []

theorem invocation_tells {mode : Mode} {key : String} {invocation : Invocation World results}
    (suits : ∀ step ∈ invocation.steps, step.Suits mode key) (path : List String)
    (document : Document) :
    Tells results mode key (document.within path) (invocation.run path document).2.world.events
      ((invocation.run path document).2.here.within path) := by
  obtain ⟨events, noted, told⟩ := (Tells.composes mode key).runSteps suits
    (Place.top.descend path document)
    ⟨document.within path, .empty, [], invocation.clock, ⟨invocation.world, []⟩⟩
  rw [Invocation.run, Action.run, Action.nestedPath_eq]
  simp only [Document.within_setWithin, noted, List.nil_append]
  exact told

theorem invocation_snapshots {invocation : Invocation World results}
    (snapshots : ∀ step ∈ invocation.steps, step.Snapshots) {path : List String}
    {document : Document} {suspension : Suspension}
    {after : Frame (Noted World (Event results))}
    (ended : invocation.run path document = (.error (.suspended suspension), after)) :
    suspension.state = after.here :=
  Action.snapshots_nestedPath (snapshots_runSteps snapshots) path _ _ _ _ ended

theorem history_tells {mode : Mode} {key : String}
    {invocations : List (Invocation World results)}
    (suits : ∀ invocation ∈ invocations, ∀ step ∈ invocation.steps, step.Suits mode key)
    (snapshots : ∀ invocation ∈ invocations, ∀ step ∈ invocation.steps, step.Snapshots)
    (path : List String) (document : Document) :
    ∃ last, Tells results mode key (document.within path) (history path document invocations)
      last := by
  induction invocations generalizing document with
  | nil => exact ⟨_, .nothing rfl⟩
  | cons invocation rest ih =>
      have told := invocation_tells (suits invocation List.mem_cons_self) path document
      cases ran : invocation.run path document with
      | mk result after =>
          rw [ran] at told
          simp only [history, ran]
          -- The next invocation starts from what this one left, because that is what is carried.
          split
          · rename_i suspension
            have carried := invocation_snapshots (snapshots invocation List.mem_cons_self) ran
            obtain ⟨last, later⟩ := ih
              (fun other member => suits other (List.mem_cons_of_mem invocation member))
              (fun other member => snapshots other (List.mem_cons_of_mem invocation member))
              suspension.state
            rw [carried] at later ⊢
            exact ⟨last, told.trans later⟩
          · rw [List.append_nil]
            exact ⟨_, told⟩

/-- In a run of any length, once the operation of a step has succeeded it is never invoked again,
and each later execution of the step returns exactly its value. -/
theorem success_is_final (results : Results) (path : List String) (code : List (Mode × String))
    (distinct : (code.map Prod.snd).Nodup)
    (lawful : ∀ part ∈ code, (results.codec part.2).Lawful)
    (present : ∀ key, (.awaited, key) ∈ code →
      ∀ value, (results.codec key).encode value ≠ .ok .null)
    (document : Document) (invocations : List (Invocation World results))
    (same : ∀ invocation ∈ invocations, invocation.steps.map Step.memo? = code.map some)
    (snapshots : ∀ invocation ∈ invocations, ∀ step ∈ invocation.steps, step.Snapshots)
    (earlier later : List (Event results)) (key : String) (value : results.Value key)
    (happened : history path document invocations =
      earlier ++ .succeeded key value :: later) :
    ∀ event ∈ later, event.key = key → event = .finished key (.ok value) := by
  -- The keys are distinct, so the key of the success has one mode in the whole run.
  obtain ⟨mode, agrees⟩ : ∃ mode, ∀ part ∈ code, part.2 = key → part.1 = mode := by
    by_cases used : ∃ part ∈ code, part.2 = key
    · obtain ⟨⟨mode, _⟩, member, rfl⟩ := used
      exact ⟨mode, mode_of_key distinct member⟩
    · exact ⟨.once, fun part member here => absurd ⟨part, member, here⟩ used⟩
  have suits : ∀ invocation ∈ invocations, ∀ step ∈ invocation.steps, step.Suits mode key := by
    intro invocation chosen step member
    have found : step.memo? ∈ code.map some := by
      rw [← same invocation chosen]
      exact List.mem_map_of_mem member
    refine suits_of_listed lawful present agrees ?_ ?_
    · intro part memo
      simpa [memo] using found
    · cases step with
      | aside action => simp [Step.memo?] at found
      | _ => trivial
  obtain ⟨last, told⟩ := history_tells suits snapshots path document
  exact (told.records earlier value later happened).1

def flags : Results := ⟨fun _ => Bool, fun _ => .bool⟩

theorem lawful_flags (key : String) : (flags.codec key).Lawful
  | true => ⟨_, rfl, rfl⟩
  | false => ⟨_, rfl, rfl⟩

def createJob (create : Action Unit Bool) : Step Unit flags := .once (.withKey "create") create

def awaitJob (answer : Action Unit (Option Bool)) : Step Unit flags :=
  .awaited (.withKey "wait") answer

/-- Creates a job once, then waits for it. -/
def jobInvocation (create : Action Unit Bool) (answer : Action Unit (Option Bool)) :
    Invocation Unit flags where
  steps := [createJob create, awaitJob answer]
  clock := ⟨0⟩
  world := ()

/-- The job is not ready at first; creating it again would fail. -/
def jobInvocations : List (Invocation Unit flags) :=
  [jobInvocation (Action.pure true) (Action.suspend 5),
    jobInvocation (Action.fail (.other (.text "exists"))) (Action.pure (some true))]

/-- A frame that the steps of the job meet, with what they have noted so far. -/
def jobFrame (document : Document) (events : List (Event flags)) :
    Frame (Noted Unit (Event flags)) :=
  ⟨document, .empty, [], ⟨0⟩, ⟨(), events⟩⟩

theorem run_jobInvocation (create : Action Unit Bool) (answer : Action Unit (Option Bool))
    (document : Document) :
    (jobInvocation create answer).run [] document =
      runSteps [createJob create, awaitJob answer] .top (jobFrame document []) := by
  rfl

/-- What a step that runs once keeps of a success. -/
def keptFlag : Json :=
  .object [("done", .bool true), ("operation", .object []), ("result", .bool true)]

def waiting : Suspension :=
  .of 5 [("create", keptFlag),
    ("wait", .object [("operation", .object []), ("start_time", .nat 0)])]

theorem history_jobInvocations :
    history [] [] jobInvocations =
      [.invoked "create", .succeeded "create" true, .finished "create" (.ok true),
        .invoked "wait", .finished "wait" (.error (.suspended waiting)),
        .finished "create" (.ok true),
        .invoked "wait", .succeeded "wait" true, .finished "wait" (.ok true)] := by
  have first : (jobInvocation (Action.pure true) (Action.suspend 5)).run [] [] =
      (.error (.suspended waiting), jobFrame waiting.state
        [.invoked "create", .succeeded "create" true, .finished "create" (.ok true),
          .invoked "wait", .finished "wait" (.error (.suspended waiting))]) := by
    have created : (createJob (Action.pure true)).run .top (jobFrame [] []) =
        (.ok (), jobFrame [("create", keptFlag)]
          [.invoked "create", .succeeded "create" true, .finished "create" (.ok true)]) := by
      rfl
    rw [run_jobInvocation, runSteps_of_ok created]
    exact runSteps_of_error (by rfl)
  have second : (jobInvocation (Action.fail (.other (.text "exists")))
      (Action.pure (some true))).run [] waiting.state =
      (.ok (), jobFrame [("create", keptFlag), ("wait", .object [("result", .bool true)])]
        [.finished "create" (.ok true), .invoked "wait", .succeeded "wait" true,
          .finished "wait" (.ok true)]) := by
    have recalled : (createJob (Action.fail (.other (.text "exists")))).run .top
        (jobFrame waiting.state []) =
          (.ok (), jobFrame waiting.state [.finished "create" (.ok true)]) := by
      rfl
    rw [run_jobInvocation, runSteps_of_ok recalled]
    exact runSteps_of_ok (by rfl)
  simp only [jobInvocations, history, first, second]
  rfl

theorem created_job_stays_created :
    (history [] [] jobInvocations)[5]? = some (.finished "create" (.ok true)) ∧
      ∀ event ∈ (history [] [] jobInvocations).drop 2,
        event.key = "create" → event = .finished "create" (.ok true) := by
  have happened : history [] [] jobInvocations = [.invoked "create"] ++
      .succeeded "create" true :: (history [] [] jobInvocations).drop 2 := by
    rw [history_jobInvocations]
    rfl
  constructor
  · rw [history_jobInvocations]
    rfl
  refine success_is_final flags [] [(.once, "create"), (.awaited, "wait")] (by decide)
    (fun part _ => lawful_flags part.2) ?_ [] jobInvocations ?_ ?_ [.invoked "create"] _
    "create" true happened
  · intro key _ value stored
    cases stored
  · intro invocation member
    simp only [jobInvocations, List.mem_cons, List.not_mem_nil, or_false] at member
    rcases member with rfl | rfl <;> rfl
  · intro invocation chosen step member
    simp only [jobInvocations, List.mem_cons, List.not_mem_nil, or_false] at chosen
    rcases chosen with rfl | rfl <;>
      simp only [jobInvocation, List.mem_cons, List.not_mem_nil, or_false] at member <;>
      rcases member with rfl | rfl
    · exact Action.snapshots_of_quiet (Action.quiet_pure true)
    · exact Action.snapshots_suspend 5
    · exact Action.snapshots_of_quiet (Action.quiet_fail rfl)
    · exact Action.snapshots_of_quiet (Action.quiet_pure (some true))

end Resumable.Memo
