import Mathlib.Data.List.Nodup
import Resumable.Proofs.Memo.Execution

/-!
Runs are followed for one key at a time. A statement about a part of a run, from one scope to
another, holds of whole sequences of steps if it holds of single executions of the key's own step,
of parts about other keys, and of two parts in a row.
-/

namespace Resumable.Memo

variable {World : Type} {results : Results}

theorem Executed.key_eq {mode : Mode} {key : String} {before after : Document}
    {events : List (Event results)} (executed : Executed results mode key before events after) :
    ∀ event ∈ events, event.key = key := by
  cases executed with
  | recalled _ _ _ => simp [Event.key]
  | stopped _ called =>
      rcases called with rfl | ⟨_, rfl⟩ <;> simp [Event.key]
  | succeeded _ _ => simp [Event.key]

/-- Code between the steps does not write the member of a key. -/
def Step.LeavesAlone (key : String) : Step World results → Prop
  | .aside action => ∀ place frame,
      Table.get? key (action place frame).2.here = Table.get? key frame.here
  | _ => True

/-- What is asked of a step to follow a key through it. -/
structure Step.Suits (step : Step World results) (mode : Mode) (key : String) : Prop where
  storable : ∀ part, step.memo? = some part → Storable results part.1 part.2
  agrees : ∀ part, step.memo? = some part → part.2 = key → part.1 = mode
  apart : step.LeavesAlone key

theorem mode_of_key {code : List (Mode × String)} (distinct : (code.map Prod.snd).Nodup)
    {mode : Mode} {key : String} (listed : (mode, key) ∈ code) :
    ∀ part ∈ code, part.2 = key → part.1 = mode := by
  intro part member same
  rw [List.inj_on_of_nodup_map distinct member listed same]

theorem suits_of_listed {code : List (Mode × String)}
    (lawful : ∀ part ∈ code, (results.codec part.2).Lawful)
    (present : ∀ key, (.awaited, key) ∈ code →
      ∀ value, (results.codec key).encode value ≠ .ok .null)
    {mode : Mode} {key : String} (agrees : ∀ part ∈ code, part.2 = key → part.1 = mode)
    {step : Step World results} (listed : ∀ part, step.memo? = some part → part ∈ code)
    (apart : step.LeavesAlone key) : step.Suits mode key where
  storable part memo := by
    refine ⟨lawful part (listed part memo), fun awaited => present part.2 ?_⟩
    rw [← awaited]
    exact listed part memo
  agrees part memo := agrees part (listed part memo)
  apart := apart

theorem child_of_get? {key : String} {before after : Document}
    (same : Table.get? key after = Table.get? key before) : after.child key = before.child key := by
  simp only [Document.child, same]

/-- What can be said of the parts of a run about one key, and put together for the whole. -/
structure Composes (results : Results) (mode : Mode) (key : String)
    (Says : Document → List (Event results) → Document → Prop) : Prop where
  elsewhere : ∀ {before events after}, (∀ event ∈ events, event.key ≠ key) →
    after.child key = before.child key → Says before events after
  trans : ∀ {before first middle second after}, Says before first middle →
    Says middle second after → Says before (first ++ second) after
  executed : ∀ {before events after}, Storable results mode key →
    Executed results mode key before events after → Says before events after

variable {mode : Mode} {key : String}
  {Says : Document → List (Event results) → Document → Prop}

theorem Composes.step (composes : Composes results mode key Says) {step : Step World results}
    (suits : step.Suits mode key) (place : Place) (frame : Frame (Noted World (Event results))) :
    ∃ events, (step.run place frame).2.world.events = frame.world.events ++ events ∧
      Says frame.here events (step.run place frame).2.here := by
  cases memo : step.memo? with
  | none =>
      cases step with
      | aside action =>
          refine ⟨[], (List.append_nil _).symm, composes.elsewhere (by simp) (child_of_get? ?_)⟩
          exact suits.apart place (frame.withWorld frame.world.world)
      | _ => simp [Step.memo?] at memo
  | some part =>
      obtain ⟨own, other⟩ := part
      have fits := suits.storable _ memo
      obtain ⟨events, noted, executed, frames⟩ := step_executed memo fits place frame
      refine ⟨events, noted, ?_⟩
      -- A step of another key writes its own member only, and its events are its own.
      by_cases same : other = key
      · subst same
        obtain rfl : own = mode := suits.agrees _ memo rfl
        exact composes.executed fits executed
      · apply composes.elsewhere _ (child_of_get? (frames key (Ne.symm same)))
        intro event member here
        exact same ((executed.key_eq event member).symm.trans here)

-- A whole sequence of steps, wherever it stops.
theorem Composes.runSteps (composes : Composes results mode key Says)
    {steps : List (Step World results)} (suits : ∀ step ∈ steps, step.Suits mode key)
    (place : Place) (frame : Frame (Noted World (Event results))) :
    ∃ events, (runSteps steps place frame).2.world.events = frame.world.events ++ events ∧
      Says frame.here events (runSteps steps place frame).2.here := by
  induction steps generalizing frame with
  | nil => exact ⟨[], (List.append_nil _).symm, composes.elsewhere (by simp) rfl⟩
  | cons step rest ih =>
      obtain ⟨early, noted, said⟩ := composes.step (suits step List.mem_cons_self) place frame
      cases ran : step.run place frame with
      | mk result middle =>
          rw [ran] at noted said
          cases result with
          | error error =>
              rw [runSteps_of_error ran]
              exact ⟨early, noted, said⟩
          | ok done =>
              rw [runSteps_of_ok ran]
              obtain ⟨late, added, continued⟩ := ih
                (fun later member => suits later (List.mem_cons_of_mem step member)) middle
              refine ⟨early ++ late, ?_, composes.trans said continued⟩
              rw [added, noted, List.append_assoc]

end Resumable.Memo
