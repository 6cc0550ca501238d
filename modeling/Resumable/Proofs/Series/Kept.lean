import Resumable.Proofs.Attempt
import Resumable.Proofs.Series.Waits

/-!
What a retry or a wait keeps of its result. A call that ends in an error leaves what is kept as it
was, wherever it failed; a value that the operation gave is kept as a whole, by the retry with a
flag beside it. A call that finds a kept value returns it and does nothing else. To a wait, a value
stored as null is none.
-/

namespace Resumable

variable {World α β : Type}

namespace Retry.Attempted

variable {retry : Retry} {operation : Action World α} {place : Place} {frame after : Frame World}
  {result : Except TaskError α}

-- An attempt writes its counter and the scope of the operation only.
theorem get?_of_not_mem (attempted : Attempted retry operation place frame result after)
    {key : String} (other : key ∉ ["retry", "operation"]) :
    Table.get? key after.here = Table.get? key frame.here := by
  rw [List.mem_cons, List.mem_singleton, not_or] at other
  have untouched {last : Frame World} {given : Except TaskError α}
      (ran : Action.nested "operation" operation place frame = (given, last)) :
      Table.get? key last.here = Table.get? key frame.here := by
    have same := Action.get?_nested_of_ne other.2 operation place frame
    rwa [ran] at same
  cases attempted with
  | succeeded ran => exact (Table.get?_erase_of_ne other.1 _).trans (untouched ran)
  | passed ran _ => exact untouched ran
  | gaveUp ran _ _ =>
      have same := untouched ran
      exact same
  | uncounted ran _ _ _ => exact untouched ran
  | retried ran _ _ _ => exact (Table.get?_insert_of_ne other.1 _ _).trans (untouched ran)

end Retry.Attempted

-- Wherever a call fails, it fails before the flag and the result are written.
theorem Retry.RanOnce.get?_of_failed {retry : Retry} {codec : Json.Codec α}
    {operation : Action World α} {place : Place} {frame after : Frame World}
    {result : Except TaskError α} (ran : RanOnce retry codec operation place frame result after)
    (failed : ∀ value, result ≠ .ok value) {key : String} (other : key ∉ ["retry", "operation"]) :
    Table.get? key after.here = Table.get? key frame.here := by
  cases ran with
  | unread _ => rfl
  | recalled _ => rfl
  | stopped _ ran => exact (attempted ran).get?_of_not_mem other
  | unstored _ ran _ => exact (attempted ran).get?_of_not_mem other
  | stored _ _ _ => exact absurd rfl (failed _)

namespace Polling

variable {polling : Polling} {operation : Action World (Option α)} {place : Place}
  {frame after : Frame World} {result : Except TaskError α} {key : String}

theorem Started.get?_of_ne {now start : Int} {opened : Frame World}
    (started : Started now frame start opened) (other : key ≠ "start_time") :
    Table.get? key opened.here = Table.get? key frame.here := by
  cases started with
  | earlier _ => rfl
  | now _ => exact Table.get?_insert_of_ne other ..

-- A check writes the time of the first one, its counter and the scope of the operation only.
theorem Checked.get?_of_not_mem (checked : Checked polling operation place frame result after)
    (other : key ∉ Series.touched) :
    Table.get? key after.here = Table.get? key frame.here := by
  have unstarted : key ≠ "start_time" := (ne_of_mem_of_not_mem (by decide) other).symm
  have uncounted : key ≠ "iteration" := (ne_of_mem_of_not_mem (by decide) other).symm
  have untouched {start : Int} {opened last : Frame World} {answer : Except TaskError (Option α)}
      (started : Started (polling.read frame.clock) frame start opened)
      (ran : Action.nested "operation" operation place opened = (answer, last)) :
      Table.get? key last.here = Table.get? key frame.here := by
    have unscoped : key ≠ "operation" := (ne_of_mem_of_not_mem (by decide) other).symm
    have same := Action.get?_nested_of_ne unscoped operation place opened
    rw [ran] at same
    exact same.trans (started.get?_of_ne unstarted)
  cases checked with
  | unstarted _ => rfl
  | expired started _ => exact started.get?_of_ne unstarted
  | passed started _ ran => exact untouched started ran
  | ready started _ ran =>
      exact (Series.get?_cleared_of_not_mem other _).trans (untouched started ran)
  | uncounted started _ ran _ => exact untouched started ran
  | waits started _ ran _ =>
      exact (Table.get?_insert_of_ne uncounted ..).trans (untouched started ran)

theorem AwaitedOnce.get?_of_failed {codec : Json.Codec α}
    (ran : AwaitedOnce polling codec operation place frame result after)
    (failed : ∀ value, result ≠ .ok value)
    (other : key ∉ Series.touched) :
    Table.get? key after.here = Table.get? key frame.here := by
  cases ran with
  | unread _ => rfl
  | recalled _ => rfl
  | stopped _ ran => exact (checked ran).get?_of_not_mem other
  | unstored _ ran _ => exact (checked ran).get?_of_not_mem other
  | stored _ _ _ => exact absurd rfl (failed _)

end Polling

namespace Series

/-! The retry. -/

/-- What is kept after a call of a retry that runs its operation once. An error, wherever it comes
from, leaves the flag and the result as they were; a value that the operation gave is kept as a
whole, and the counter is gone. -/
structure KeepsOnce (retry : Retry) (codec : Json.Codec α) (path : List String)
    (turn : Turn α α) : Prop where
  failed : ∀ error, turn.result = .error error → ∀ key ∈ ["done", "result"],
    turn.left.memberAt (path ++ [retry.key]) key = turn.given.memberAt (path ++ [retry.key]) key
  kept : ∀ value, turn.result = .ok value → turn.answers ≠ [] →
    (∃ scope, turn.answers = [⟨.ok value, scope⟩]) ∧
    ∃ stored, codec.encode value = .ok stored ∧
      turn.left.memberAt (path ++ [retry.key]) "result" = some stored ∧
      turn.left.memberAt (path ++ [retry.key]) "done" = some (.bool true) ∧
      turn.left.memberAt (path ++ [retry.key]) "retry" = none

-- A value comes from the operation, and takes the counter away.
theorem attempt_answered {retry : Retry} {operation : Action World α} {place : Place}
    {frame after : Frame (Watched World α)} {value : α}
    (ran : retry.attempt (watching operation) place frame = (.ok value, after)) :
    Table.get? "retry" after.here = none ∧
      ∃ scope, after.world.events = frame.world.events ++ [⟨.ok value, scope⟩] := by
  cases Retry.attempted ran with
  | @succeeded _ opened called =>
      obtain ⟨scope, _, events⟩ := nested_watching called
      exact ⟨Table.get?_erase_self "retry" opened.here, scope, events⟩

-- A turn of the retry is what it does at the end of its path.
theorem runOnce_turn (retry : Retry) (codec : Json.Codec α) (path : List String)
    (call : Call World α) (document : Document) :
    ∃ result inner,
      retry.RanOnce codec (watching call.operation)
        (Place.top.descend (path ++ [retry.key]) document)
        (call.frame (document.within (path ++ [retry.key]))) result inner ∧
      turn path (retry.runOnce codec) call document =
        ⟨call.clock, document, inner.world.events, result,
          document.setWithin (path ++ [retry.key]) inner.here⟩ := by
  obtain ⟨result, inner, ran, same⟩ :=
    turn_nested path retry.key (retry.once codec) call document
  exact ⟨result, inner, Retry.ranOnce ran, same⟩

theorem runOnce_keeps (retry : Retry) (codec : Json.Codec α) (path : List String)
    (call : Call World α) (document : Document) :
    KeepsOnce retry codec path (turn path (retry.runOnce codec) call document) := by
  obtain ⟨result, inner, ended, same⟩ := runOnce_turn retry codec path call document
  rw [same]
  constructor
  · intro error failed key member
    rw [Document.memberAt_setWithin, Document.memberAt_eq]
    refine ended.get?_of_failed ?_ ?_
    · intro value succeeded
      cases failed.symm.trans succeeded
    · rcases List.mem_cons.mp member with rfl | member
      · decide
      · cases List.mem_singleton.mp member
        decide
  · intro value succeeded asked
    simp only [Document.memberAt_setWithin]
    cases ended with
    | unread _ => cases succeeded
    | recalled _ => exact absurd rfl asked
    | stopped _ _ => cases succeeded
    | unstored _ _ _ => cases succeeded
    | @stored _ stored after _ attempt encoded =>
        cases succeeded
        obtain ⟨uncounted, scope, events⟩ := attempt_answered attempt
        refine ⟨⟨scope, events⟩, stored, encoded, ?_, ?_, ?_⟩
        · rw [Retry.kept, Table.get?_insert_of_ne (by decide), Table.get?_insert_self]
        · rw [Retry.kept, Table.get?_insert_self]
        · rw [Retry.kept, Table.get?_insert_of_ne (by decide),
            Table.get?_insert_of_ne (by decide), uncounted]

/-- A call that finds a kept value returns it and does nothing else. -/
theorem runOnce_recalls {retry : Retry} {codec : Json.Codec α} {path : List String}
    {document : Document} {stored : Json} {value : α}
    (done : document.memberAt (path ++ [retry.key]) "done" = some (.bool true))
    (found : document.memberAt (path ++ [retry.key]) "result" = some stored)
    (read : codec.decode stored = .ok value) (call : Call World α) :
    turn path (retry.runOnce codec) call document =
      ⟨call.clock, document, [], .ok value,
        document.setWithin (path ++ [retry.key]) (document.within (path ++ [retry.key]))⟩ := by
  obtain ⟨result, inner, ended, same⟩ := runOnce_turn retry codec path call document
  rw [same]
  rw [Document.memberAt_eq] at done found
  have flag : (document.within (path ++ [retry.key])).getOr .bool "done" false = .ok true := by
    rw [Document.getOr, Document.get_of_some (by simp) done rfl]
    rfl
  have given : (document.within (path ++ [retry.key])).getNullable codec "result" = .ok value :=
    Document.getNullable_of_some found read
  have not_due (undone : (document.within (path ++ [retry.key])).getOr .bool "done" false =
      .ok false) : False := by
    rw [flag] at undone
    cases undone
  cases ended with
  | unread unread =>
      rw [Call.here_frame, flag] at unread
      cases unread
  | recalled _ =>
      rw [Call.here_frame, given]
      rfl
  | stopped undone _ => exact absurd undone not_due
  | unstored undone _ _ => exact absurd undone not_due
  | stored undone _ _ => exact absurd undone not_due

/-! The wait. -/

/-- What is kept after a call of a wait that is over once its value has been seen. An error leaves
the result as it was; a value that the operation gave is kept, and the rest of the scope is gone. -/
structure KeepsAwaited (polling : Polling) (codec : Json.Codec α) (path : List String)
    (turn : Turn α (Option α)) : Prop where
  failed : ∀ error, turn.result = .error error →
    turn.left.memberAt (path ++ [polling.key]) "result" =
      turn.given.memberAt (path ++ [polling.key]) "result"
  kept : ∀ value, turn.result = .ok value → turn.answers ≠ [] →
    (∃ scope, turn.answers = [⟨.ok (some value), scope⟩]) ∧
    ∃ stored, codec.encode value = .ok stored ∧
      turn.left.memberAt (path ++ [polling.key]) "result" = some stored ∧
      ∀ key ∈ touched, turn.left.memberAt (path ++ [polling.key]) key = none

theorem check_answered {polling : Polling} {operation : Action World (Option α)} {place : Place}
    {frame after : Frame (Watched World (Option α))} {value : α}
    (ran : polling.check (watching operation) place frame = (.ok value, after)) :
    (∀ key ∈ touched, Table.get? key after.here = none) ∧
      ∃ scope, after.world.events = frame.world.events ++ [⟨.ok (some value), scope⟩] := by
  cases Polling.checked ran with
  | @ready _ _ opened last started _ called =>
      obtain ⟨scope, _, events⟩ := nested_watching called
      rw [started.world] at events
      exact ⟨fun key member => get?_cleared_of_mem member last.here, scope, events⟩

theorem awaitOnce_turn (polling : Polling) (codec : Json.Codec α) (path : List String)
    (call : Call World (Option α)) (document : Document) :
    ∃ result inner,
      polling.AwaitedOnce codec (watching call.operation)
        (Place.top.descend (path ++ [polling.key]) document)
        (call.frame (document.within (path ++ [polling.key]))) result inner ∧
      turn path (polling.awaitOnce codec) call document =
        ⟨call.clock, document, inner.world.events, result,
          document.setWithin (path ++ [polling.key]) inner.here⟩ := by
  obtain ⟨result, inner, ran, same⟩ :=
    turn_nested path polling.key (polling.once codec) call document
  exact ⟨result, inner, Polling.awaitedOnce ran, same⟩

theorem awaitOnce_keeps (polling : Polling) (codec : Json.Codec α) (path : List String)
    (call : Call World (Option α)) (document : Document) :
    KeepsAwaited polling codec path (turn path (polling.awaitOnce codec) call document) := by
  obtain ⟨result, inner, ended, same⟩ := awaitOnce_turn polling codec path call document
  rw [same]
  constructor
  · intro error failed
    rw [Document.memberAt_setWithin, Document.memberAt_eq]
    refine ended.get?_of_failed ?_ (by decide)
    intro value succeeded
    cases failed.symm.trans succeeded
  · intro value succeeded asked
    simp only [Document.memberAt_setWithin]
    cases ended with
    | unread _ => cases succeeded
    | recalled _ => exact absurd rfl asked
    | stopped _ _ => cases succeeded
    | unstored _ _ _ => cases succeeded
    | @stored _ stored after _ check encoded =>
        cases succeeded
        obtain ⟨cleared, scope, events⟩ := check_answered check
        refine ⟨⟨scope, events⟩, stored, encoded, Table.get?_insert_self .., ?_⟩
        intro key member
        have other : key ≠ "result" := ne_of_mem_of_not_mem member (by decide)
        rw [Table.get?_insert_of_ne other, cleared key member]

/-- A call that finds a value, which null is not, returns it and does nothing else. -/
theorem awaitOnce_recalls {polling : Polling} {codec : Json.Codec α} {path : List String}
    {document : Document} {stored : Json} {value : α}
    (found : document.memberAt (path ++ [polling.key]) "result" = some stored)
    (present : stored ≠ .null) (read : codec.decode stored = .ok value)
    (call : Call World (Option α)) :
    turn path (polling.awaitOnce codec) call document =
      ⟨call.clock, document, [], .ok value,
        document.setWithin (path ++ [polling.key]) (document.within (path ++ [polling.key]))⟩ := by
  obtain ⟨result, inner, ended, same⟩ := awaitOnce_turn polling codec path call document
  rw [same]
  rw [Document.memberAt_eq] at found
  have given : (document.within (path ++ [polling.key])).get codec "result" = .ok (some value) :=
    Document.get_of_some present found read
  have not_unseen (unseen : (document.within (path ++ [polling.key])).get codec "result" =
      .ok none) : False := by
    rw [given] at unseen
    cases unseen
  cases ended with
  | unread unread =>
      rw [Call.here_frame, given] at unread
      cases unread
  | recalled seen =>
      rw [Call.here_frame, given] at seen
      cases seen
      rfl
  | stopped unseen _ => exact absurd unseen not_unseen
  | unstored unseen _ _ => exact absurd unseen not_unseen
  | stored unseen _ _ => exact absurd unseen not_unseen

/-- What a call leaves has its scope in place already. -/
theorem setWithin_left (path : List String) (key : String) (within : Taking World α β)
    (call : Call World β) (document : Document) :
    let left := (turn path (fun operation => .nested key (within operation)) call document).left
    left.setWithin (path ++ [key]) (left.within (path ++ [key])) = left := by
  obtain ⟨_, inner, _, same⟩ := turn_nested path key within call document
  simp only [same, Document.within_setWithin, Document.setWithin_setWithin]

end Series

end Resumable
