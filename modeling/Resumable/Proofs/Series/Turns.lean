import Mathlib.Data.List.DropRight
import Resumable.Proofs.Apart
import Resumable.Proofs.Memo.Step

/-!
Series of calls of one retry or wait. Each call is given the document that the one before left,
whatever came of that one; the time and the world may be any. What the operation answers is noted
beside the world, so a call of the retry or the wait that does not come to its operation shows too.
-/

namespace Resumable.Series

variable {World α β : Type}

/-- An answer of the operation, with its scope as it left it. -/
structure Answer (β : Type) where
  result : Except TaskError β
  scope : Document

abbrev Watched (World β : Type) := Memo.Noted World (Answer β)

/-- Notes each answer of the operation, which knows nothing of the notes. -/
def watching (operation : Action World β) : Action (Watched World β) β :=
  fun place frame =>
    let (result, after) := operation place (frame.withWorld frame.world.world)
    (result, after.withWorld ⟨after.world, frame.world.events ++ [⟨result, after.here⟩]⟩)

structure Call (World β : Type) where
  operation : Action World β
  report : TaskReport
  log : Log
  clock : Clock
  world : World

def Call.frame (call : Call World β) (document : Document) : Frame (Watched World β) :=
  ⟨document, call.report, call.log, call.clock, ⟨call.world, []⟩⟩

@[simp] theorem Call.here_frame (call : Call World β) (document : Document) :
    (call.frame document).here = document := rfl

/-- What a call shows: the answers of its operation, its own result, and the document before and
after. -/
structure Turn (α β : Type) where
  clock : Clock
  given : Document
  answers : List (Answer β)
  result : Except TaskError α
  left : Document

/-- A retry or a wait, as it takes an operation. -/
abbrev Taking (World α β : Type) := Action (Watched World β) β → Action (Watched World β) α

def turn (path : List String) (taking : Taking World α β) (call : Call World β)
    (document : Document) : Turn α β :=
  let (result, after) :=
    Action.nestedPath path (taking (watching call.operation)) .top (call.frame document)
  ⟨call.clock, document, after.world.events, result, after.here⟩

def turns (path : List String) (taking : Taking World α β) :
    Document → List (Call World β) → List (Turn α β)
  | _, [] => []
  | document, call :: rest =>
      turn path taking call document :: turns path taking (turn path taking call document).left rest

-- What each turn hands on to the next, given the turns so far, holds at every turn.
theorem turns_split {path : List String} {taking : Taking World α β}
    (Kept : List (Turn α β) → Document → Prop)
    (step : ∀ earlier call document, Kept earlier document →
      Kept (earlier ++ [turn path taking call document]) (turn path taking call document).left)
    {calls : List (Call World β)} {document : Document} {earlier before after : List (Turn α β)}
    {other : Turn α β} (start : Kept earlier document)
    (split : turns path taking document calls = before ++ other :: after) :
    ∃ call, other = turn path taking call other.given ∧ Kept (earlier ++ before) other.given := by
  induction calls generalizing document earlier before with
  | nil => simp [turns] at split
  | cons call rest ih =>
      rw [turns] at split
      cases before with
      | nil =>
          simp only [List.nil_append, List.cons.injEq] at split
          obtain ⟨rfl, _⟩ := split
          exact ⟨call, rfl, by rwa [List.append_nil]⟩
      | cons first before =>
          simp only [List.cons_append, List.cons.injEq] at split
          obtain ⟨rfl, split⟩ := split
          rw [List.append_cons]
          exact ih (step earlier call document start) split

/-! What a turn comes to in the scope of the retry or the wait. -/

theorem turn_nested (path : List String) (key : String) (within : Taking World α β)
    (call : Call World β) (document : Document) :
    ∃ result inner,
      within (watching call.operation) (Place.top.descend (path ++ [key]) document)
        (call.frame (document.within (path ++ [key]))) = (result, inner) ∧
      turn path (fun operation => .nested key (within operation)) call document =
        ⟨call.clock, document, inner.world.events, result,
          document.setWithin (path ++ [key]) inner.here⟩ := by
  have inside : Action.nestedPath path (.nested key (within (watching call.operation))) =
      Action.nestedPath (path ++ [key]) (within (watching call.operation)) := by
    simp [Action.nestedPath]
  refine ⟨_, _, rfl, ?_⟩
  simp only [turn]
  rw [inside, Action.nestedPath_eq]
  rfl

theorem nested_watching {operation : Action World β} {place : Place}
    {frame after : Frame (Watched World β)} {result : Except TaskError β}
    (ran : Action.nested "operation" (watching operation) place frame = (result, after)) :
    ∃ scope, after.here = frame.here.setChild "operation" scope ∧
      after.world.events = frame.world.events ++ [⟨result, scope⟩] := by
  simp only [Action.nested, watching, Prod.mk.injEq] at ran
  obtain ⟨rfl, rfl⟩ := ran
  exact ⟨_, rfl, rfl⟩

/-! Counting over the turns. -/

def isSuspension : Except TaskError α → Bool
  | .ok _ => false
  | .error error => error.isSuspended

namespace Turn

def succeeds (turn : Turn α β) : Bool := turn.result.isOk

/-- The retry or the wait itself suspends: the suspension is not its operation's. -/
def suspends (turn : Turn α β) : Bool :=
  isSuspension turn.result && !turn.answers.any fun answer => isSuspension answer.result

end Turn

def sinceSuccess (turns : List (Turn α β)) : List (Turn α β) :=
  turns.rtakeWhile fun turn => !turn.succeeds

theorem sinceSuccess_concat (turns : List (Turn α β)) (turn : Turn α β) :
    sinceSuccess (turns ++ [turn]) =
      if turn.succeeds then [] else sinceSuccess turns ++ [turn] := by
  rw [sinceSuccess, List.rtakeWhile_concat]
  cases turn.succeeds <;> rfl

/-- How many of the turns since the last success are of a kind. -/
def countSince (kind : Turn α β → Bool) (turns : List (Turn α β)) : Nat :=
  (sinceSuccess turns).countP kind

theorem countSince_concat (kind : Turn α β → Bool) (turns : List (Turn α β)) (turn : Turn α β) :
    countSince kind (turns ++ [turn]) =
      if turn.succeeds then 0 else countSince kind turns + if kind turn then 1 else 0 := by
  rw [countSince, sinceSuccess_concat]
  cases turn.succeeds with
  | true => rfl
  | false => simp [countSince, List.countP_append, List.countP_cons]

/-- A persisted counter: absent at zero, and held at the largest value once that is reached. -/
def counter (count : Nat) : Option Json :=
  if count = 0 then none else some (.nat (min count maxCount))

theorem counter_succ (count : Nat) :
    counter (count + 1) = some (.nat (min (min count maxCount + 1) maxCount)) := by
  have held : min (min count maxCount + 1) maxCount = min (count + 1) maxCount := by omega
  rw [counter, if_neg (Nat.succ_ne_zero count), held]

theorem count_decode {count : Nat} (small : count ≤ maxCount) :
    Json.Codec.count.decode (.nat count) = .ok count := by
  have top : (Int.ofNat (1 <<< 32) - 1 : Int) = Int.ofNat maxCount := rfl
  have within : (0 : Int) ≤ Int.ofNat count ∧ Int.ofNat count ≤ Int.ofNat (1 <<< 32) - 1 := by
    rw [top]
    exact ⟨Int.natCast_nonneg count, Int.ofNat_le.mpr small⟩
  have read : Json.Decoder.integer s!"u{32}" 0 (Int.ofNat (1 <<< 32) - 1)
      (.number (.whole (Int.ofNat count))) = .ok (Int.ofNat count) := if_pos within
  change Except.map Int.toNat (Json.Decoder.integer _ _ _ (.number (.whole (Int.ofNat count)))) = _
  rw [read]
  rfl

theorem getOr_counter {document : Document} {key : String} {count : Nat}
    (counted : Table.get? key document = counter count) :
    document.getOr .count key 0 = .ok (min count maxCount) := by
  by_cases zero : count = 0
  · rw [counter, if_pos zero] at counted
    simp only [Document.getOr, Document.get, counted, zero]
    rfl
  · rw [counter, if_neg zero] at counted
    have read := count_decode (Nat.min_le_right count maxCount)
    rw [Document.getOr, Document.get_of_some (by simp [Json.nat]) counted read]
    rfl

end Resumable.Series
