import Resumable.Proofs.Memo.Step

/-!
One execution of a step, seen from outside: the events it adds and the scope before and after it.
A step is due while its scope holds no result. A step that is due calls its operation, unless a wait
is stopped before; a step that is not due calls nothing and changes nothing.
-/

namespace Resumable.Memo

variable {World α : Type} {results : Results}

/-- The scope holds the value of a step the way the step keeps it. -/
def Keeps (results : Results) (mode : Mode) (key : String) (value : results.Value key)
    (scope : Document) : Prop :=
  ∃ stored, (results.codec key).encode value = .ok stored ∧
    Table.get? "result" (scope.child key) = some stored ∧
    (mode = .once → Table.get? "done" (scope.child key) = some (.bool true))

/-- The scope shows no result of the step, so the step is to be worked on. -/
def Due (results : Results) (mode : Mode) (key : String) (scope : Document) : Prop :=
  match mode with
  | .once => (scope.child key).getOr .bool "done" false = .ok false
  | .awaited => (scope.child key).get (results.codec key) "result" = .ok none

theorem keeps_congr {mode : Mode} {key : String} {value : results.Value key}
    {before after : Document} (same : after.child key = before.child key) :
    Keeps results mode key value after ↔ Keeps results mode key value before := by
  simp only [Keeps, same]

theorem due_congr {mode : Mode} {key : String} {before after : Document}
    (same : after.child key = before.child key) :
    Due results mode key after ↔ Due results mode key before := by
  cases mode <;> simp only [Due, same]

/-- Values of a key are stored and read back as they were, and are not taken for absent. -/
def Storable (results : Results) (mode : Mode) (key : String) : Prop :=
  (results.codec key).Lawful ∧
    (mode = .awaited → ∀ value, (results.codec key).encode value ≠ .ok .null)

/-- What an execution of a step can show. -/
inductive Executed (results : Results) (mode : Mode) (key : String) (before : Document) :
    List (Event results) → Document → Prop where
  | recalled {after : Document} {result : Except TaskError (results.Value key)}
      (settled : ¬ Due results mode key before)
      (agrees : ∀ value, Keeps results mode key value before → result = .ok value)
      (same : after.child key = before.child key) :
      Executed results mode key before [.finished key result] after
  | stopped {after : Document} {calls : List (Event results)} {error : TaskError}
      (due : Due results mode key before)
      (called : calls = [.invoked key] ∨ mode = .awaited ∧ calls = []) :
      Executed results mode key before (calls ++ [.finished key (.error error)]) after
  | succeeded {after : Document} {value : results.Value key}
      (due : Due results mode key before) (keeps : Keeps results mode key value after) :
      Executed results mode key before
        [.invoked key, .succeeded key value, .finished key (.ok value)] after

-- What a step keeps under its key is what it reads there.
theorem keeps_read {mode : Mode} {key : String} {value : results.Value key} {scope : Document}
    (lawful : (results.codec key).Lawful) (keeps : Keeps results mode key value scope) :
    ∃ stored, (results.codec key).encode value = .ok stored ∧
      Table.get? "result" (scope.child key) = some stored ∧
      (results.codec key).decode stored = .ok value := by
  obtain ⟨stored, encoded, found, _⟩ := keeps
  obtain ⟨again, same, read⟩ := lawful value
  rw [encoded] at same
  cases same
  exact ⟨stored, encoded, found, read⟩

theorem done_of_keeps {key : String} {value : results.Value key} {scope : Document}
    (keeps : Keeps results .once key value scope) :
    (scope.child key).getOr .bool "done" false = .ok true := by
  obtain ⟨_, _, _, done⟩ := keeps
  have read : (scope.child key).get .bool "done" = .ok (some true) :=
    Document.get_of_some (by simp) (done rfl) rfl
  rw [Document.getOr, read]
  rfl

theorem result_of_keeps {key : String} {value : results.Value key} {scope : Document}
    (storable : Storable results .awaited key) (keeps : Keeps results .awaited key value scope) :
    (scope.child key).get (results.codec key) "result" = .ok (some value) := by
  obtain ⟨stored, encoded, found, read⟩ := keeps_read storable.1 keeps
  have present : stored ≠ .null := by
    rintro rfl
    exact storable.2 rfl value encoded
  exact Document.get_of_some present found read

theorem not_due_of_keeps {mode : Mode} {key : String} {value : results.Value key}
    {scope : Document} (storable : Storable results mode key)
    (keeps : Keeps results mode key value scope) : ¬ Due results mode key scope := by
  intro due
  cases mode with
  | once =>
      rw [Due, done_of_keeps keeps] at due
      cases due
  | awaited =>
      rw [Due, result_of_keeps storable keeps] at due
      cases due

/-! The calls of an operation inside a retry or a wait. -/

theorem nested_calling {key : String} {success : α → Option (results.Value key)}
    {operation : Action World α} {place : Place} {frame after : Frame (Noted World (Event results))}
    {result : Except TaskError α}
    (ran : Action.nested "operation" (calling key success operation) place frame =
      (result, after)) :
    after.world.events = frame.world.events ++ .invoked key :: shown key success result := by
  simp only [Action.nested, calling, Prod.mk.injEq] at ran
  obtain ⟨rfl, rfl⟩ := ran
  rfl

theorem attempt_ok {retry : Retry} {key : String}
    {operation : Action World (results.Value key)} {place : Place}
    {frame after : Frame (Noted World (Event results))} {value : results.Value key}
    (ran : retry.attempt (calling key some operation) place frame = (.ok value, after)) :
    after.world.events = frame.world.events ++ [.invoked key, .succeeded key value] := by
  cases Retry.attempted ran with
  | succeeded called => exact nested_calling called

theorem attempt_error {retry : Retry} {key : String}
    {operation : Action World (results.Value key)} {place : Place}
    {frame after : Frame (Noted World (Event results))} {error : TaskError}
    (ran : retry.attempt (calling key some operation) place frame = (.error error, after)) :
    after.world.events = frame.world.events ++ [.invoked key] := by
  cases Retry.attempted ran with
  | passed called _ => exact nested_calling called
  | gaveUp called _ _ => exact nested_calling called
  | uncounted called _ _ _ => exact nested_calling called
  | retried called _ _ _ => exact nested_calling called

theorem check_ok {polling : Polling} {key : String}
    {operation : Action World (Option (results.Value key))} {place : Place}
    {frame after : Frame (Noted World (Event results))} {value : results.Value key}
    (ran : polling.check (calling key id operation) place frame = (.ok value, after)) :
    after.world.events = frame.world.events ++ [.invoked key, .succeeded key value] := by
  cases Polling.checked ran with
  | ready started _ called =>
      rw [← started.world]
      exact nested_calling called

theorem check_error {polling : Polling} {key : String}
    {operation : Action World (Option (results.Value key))} {place : Place}
    {frame after : Frame (Noted World (Event results))} {error : TaskError}
    (ran : polling.check (calling key id operation) place frame = (.error error, after)) :
    ∃ calls, (calls = [.invoked key] ∨ calls = []) ∧
      after.world.events = frame.world.events ++ calls := by
  cases Polling.checked ran with
  | unstarted _ => exact ⟨[], .inr rfl, (List.append_nil _).symm⟩
  | expired started _ =>
      refine ⟨[], .inr rfl, ?_⟩
      rw [List.append_nil, ← started.world]
  | passed started _ called =>
      refine ⟨_, .inl rfl, ?_⟩
      rw [← started.world]
      exact nested_calling called
  | uncounted started _ called _ =>
      refine ⟨_, .inl rfl, ?_⟩
      rw [← started.world]
      exact nested_calling called
  | waits started _ called _ =>
      refine ⟨_, .inl rfl, ?_⟩
      rw [← started.world]
      exact nested_calling called

theorem keeps_kept {key : String} {value : results.Value key} {outer inner : Document}
    {stored : Json} (encoded : (results.codec key).encode value = .ok stored) :
    Keeps results .once key value (outer.setChild key (Retry.kept inner stored)) := by
  refine ⟨stored, encoded, ?_, fun _ => ?_⟩
  · rw [Document.child_setChild, Retry.kept, Table.get?_insert_of_ne (by decide),
      Table.get?_insert_self]
  · rw [Document.child_setChild, Retry.kept, Table.get?_insert_self]

theorem executed_once {retry : Retry} (operation : Action World (results.Value retry.key))
    (place : Place) (frame : Frame (Noted World (Event results)))
    {after : Frame (Noted World (Event results))}
    {result : Except TaskError (results.Value retry.key)}
    (storable : Storable results .once retry.key)
    (ran : retry.once (results.codec retry.key) (calling retry.key some operation) place
      { frame with here := frame.here.child retry.key } = (result, after)) :
    ∃ events, after.world.events ++ [.finished retry.key result] = frame.world.events ++ events ∧
      Executed results .once retry.key frame.here events
        (frame.here.setChild retry.key after.here) := by
  cases Retry.ranOnce ran with
  | unread unread =>
      refine ⟨_, rfl, .recalled ?_ ?_ (Document.child_setChild _ _ _)⟩
      · intro due
        rw [Due, unread] at due
        cases due
      · intro value keeps
        rw [done_of_keeps keeps] at unread
        cases unread
  | recalled done =>
      refine ⟨_, rfl, .recalled ?_ ?_ (Document.child_setChild _ _ _)⟩
      · intro due
        rw [Due, done] at due
        cases due
      · intro value keeps
        obtain ⟨stored, _, found, read⟩ := keeps_read storable.1 keeps
        rw [Document.getNullable_of_some found read]
        rfl
  | @stopped error _ undone tried =>
      have due : Due results .once retry.key frame.here := undone
      refine ⟨[.invoked retry.key] ++ [.finished retry.key (.error error)], ?_,
        .stopped due (.inl rfl)⟩
      rw [attempt_error tried, List.append_assoc]
  | @unstored value _ _ _ _ refused =>
      obtain ⟨stored, encoded, _⟩ := storable.1 value
      rw [encoded] at refused
      cases refused
  | stored undone tried encoded =>
      refine ⟨_, ?_, .succeeded undone (keeps_kept encoded)⟩
      rw [attempt_ok tried, List.append_assoc]
      rfl

theorem executed_awaited {polling : Polling}
    (operation : Action World (Option (results.Value polling.key))) (place : Place)
    (frame : Frame (Noted World (Event results)))
    {after : Frame (Noted World (Event results))}
    {result : Except TaskError (results.Value polling.key)}
    (storable : Storable results .awaited polling.key)
    (ran : polling.once (results.codec polling.key) (calling polling.key id operation) place
      { frame with here := frame.here.child polling.key } = (result, after)) :
    ∃ events,
      after.world.events ++ [.finished polling.key result] = frame.world.events ++ events ∧
      Executed results .awaited polling.key frame.here events
        (frame.here.setChild polling.key after.here) := by
  cases Polling.awaitedOnce ran with
  | unread unread =>
      refine ⟨_, rfl, .recalled ?_ ?_ (Document.child_setChild _ _ _)⟩
      · intro due
        rw [Due, unread] at due
        cases due
      · intro value keeps
        rw [result_of_keeps storable keeps] at unread
        cases unread
  | recalled found =>
      refine ⟨_, rfl, .recalled ?_ ?_ (Document.child_setChild _ _ _)⟩
      · intro due
        rw [Due, found] at due
        cases due
      · intro value keeps
        rw [result_of_keeps storable keeps] at found
        cases found
        rfl
  | @stopped error _ unseen tried =>
      obtain ⟨calls, called, noted⟩ := check_error tried
      have due : Due results .awaited polling.key frame.here := unseen
      refine ⟨calls ++ [.finished polling.key (.error error)], ?_,
        .stopped due (called.imp_right fun none => ⟨rfl, none⟩)⟩
      rw [noted, List.append_assoc]
  | @unstored value _ _ _ _ refused =>
      obtain ⟨stored, encoded, _⟩ := storable.1 value
      rw [encoded] at refused
      cases refused
  | @stored value stored _ unseen tried encoded =>
      refine ⟨_, ?_, .succeeded unseen ⟨stored, encoded, ?_, by simp⟩⟩
      · rw [check_ok tried, List.append_assoc]
        rfl
      · rw [Document.child_setChild, Table.get?_insert_self]

theorem finishing_nested (key : String)
    (action : Action (Noted World (Event results)) (results.Value key)) (place : Place)
    (frame : Frame (Noted World (Event results))) :
    (finishing key (.nested key action) place frame).2 =
      let ran := action (place.within key frame.here)
        { frame with here := frame.here.child key }
      { ran.2 with
        here := frame.here.setChild key ran.2.here
        world := ⟨ran.2.world.world, ran.2.world.events ++ [.finished key ran.1]⟩ } := rfl

/-- What a step that keeps its result shows, and that it touches no other member. -/
theorem step_executed {step : Step World results} {mode : Mode} {key : String}
    (memo : step.memo? = some (mode, key)) (storable : Storable results mode key)
    (place : Place) (frame : Frame (Noted World (Event results))) :
    ∃ events, (step.run place frame).2.world.events = frame.world.events ++ events ∧
      Executed results mode key frame.here events (step.run place frame).2.here ∧
      ∀ other, other ≠ key →
        Table.get? other (step.run place frame).2.here = Table.get? other frame.here := by
  cases step with
  | once retry operation =>
      cases memo
      obtain ⟨events, noted, executed⟩ := executed_once operation
        (place.within retry.key frame.here) frame storable rfl
      rw [Step.run, Retry.runOnce, finishing_nested]
      exact ⟨events, noted, executed, fun other different =>
        Document.get?_setChild_of_ne different frame.here _⟩
  | awaited polling operation =>
      cases memo
      obtain ⟨events, noted, executed⟩ := executed_awaited operation
        (place.within polling.key frame.here) frame storable rfl
      rw [Step.run, Polling.awaitOnce, finishing_nested]
      exact ⟨events, noted, executed, fun other different =>
        Document.get?_setChild_of_ne different frame.here _⟩
  | aside action => simp [Step.memo?] at memo

end Resumable.Memo
