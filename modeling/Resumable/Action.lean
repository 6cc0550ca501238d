import Resumable.Clock
import Resumable.Document
import Resumable.Log
import Resumable.Task.Result

/-!
Actions of task code. An action sees only the part of the document that its scope encloses: the rest
lies in its place, which it cannot change but which a suspension needs for the whole document. So
what is outside a scope is safe from the actions within by construction.
-/

namespace Resumable

/-- The keys from a scope outward, each with the document that holds it. -/
structure Place where
  around : List (String × Document)

namespace Place

def top : Place := ⟨[]⟩

def within (place : Place) (key : String) (outer : Document) : Place :=
  ⟨(key, outer) :: place.around⟩

/-- Keys from the root to the scope. -/
def path (place : Place) : List String := (place.around.map Prod.fst).reverse

/-- The whole document around the part in scope. -/
def root (place : Place) (here : Document) : Document :=
  place.around.foldl (fun inner outer => outer.2.setChild outer.1 inner) here

end Place

/-- What an action changes: the part of the document in scope, the report, the log, the clock, and
the world of the host. -/
structure Frame (World : Type) where
  here : Document
  report : TaskReport
  log : Log
  clock : Clock
  world : World

abbrev Action (World α : Type) := Place → Frame World → Except TaskError α × Frame World

namespace Action

variable {World α β : Type}

def pure (value : α) : Action World α := fun _ frame => (.ok value, frame)

def fail (error : TaskError) : Action World α := fun _ frame => (.error error, frame)

/-- An action that fails keeps what it changed before. -/
def bind (first : Action World α) (next : α → Action World β) : Action World β :=
  fun place frame =>
    match first place frame with
    | (.ok value, after) => next value place after
    | (.error error, after) => (.error error, after)

instance : Monad (Action World) where
  pure := Action.pure
  bind := Action.bind

theorem bind_pure_self (action : Action World α) : bind action pure = action := by
  funext place frame
  simp only [bind]
  cases action place frame with
  | mk result after => cases result <;> rfl

theorem bind_assoc {γ : Type} (action : Action World α) (first : α → Action World β)
    (next : β → Action World γ) :
    bind (bind action first) next = bind action fun value => bind (first value) next := by
  funext place frame
  simp only [bind]
  cases action place frame with
  | mk result after => cases result <;> rfl

instance : LawfulMonad (Action World) :=
  LawfulMonad.mk' (Action World) bind_pure_self (fun _ _ => rfl) bind_assoc

/-- The result of an action as a value. -/
def outcome (action : Action World α) : Action World (Except TaskError α) :=
  fun place frame =>
    let (result, after) := action place frame
    (.ok result, after)

def here : Action World Document := fun _ frame => (.ok frame.here, frame)

def place : Action World Place := fun place frame => (.ok place, frame)

def clock : Action World Clock := fun _ frame => (.ok frame.clock, frame)

def advance (span : Span) : Action World Unit :=
  fun _ frame => (.ok (), { frame with clock := frame.clock.advance span })

def world : Action World World := fun _ frame => (.ok frame.world, frame)

def changeWorld (change : World → World) : Action World Unit :=
  fun _ frame => (.ok (), { frame with world := change frame.world })

def log (event : Event) : Action World Unit :=
  fun _ frame => (.ok (), { frame with log := frame.log ++ [event] })

def addInput (value : Json) : Action World Unit :=
  fun _ frame => (.ok (), { frame with report := frame.report.append ⟨[value], []⟩ })

def addOutput (value : Json) : Action World Unit :=
  fun _ frame => (.ok (), { frame with report := frame.report.append ⟨[], [value]⟩ })

def ofState (result : Except StateError α) : Action World α :=
  match result with
  | .ok value => Action.pure value
  | .error error => fail (.state error)

def ofConfig (result : Except ConfigError α) : Action World α :=
  match result with
  | .ok value => Action.pure value
  | .error error => fail (.config error)

def get (codec : Json.Codec α) (key : String) : Action World (Option α) :=
  fun place frame => ofState (frame.here.get codec key) place frame

def getOr (codec : Json.Codec α) (key : String) (default : α) : Action World α :=
  fun place frame => ofState (frame.here.getOr codec key default) place frame

def getNullable (codec : Json.Codec α) (key : String) : Action World α :=
  fun place frame => ofState (frame.here.getNullable codec key) place frame

def set (codec : Json.Codec α) (key : String) (value : α) : Action World Unit :=
  fun _ frame =>
    match frame.here.set codec key value with
    | .ok changed => (.ok (), { frame with here := changed })
    | .error error => (.error (.state error), frame)

/-- Takes a member out of the document in scope, and gives back what it held. -/
def remove (key : String) : Action World (Option Json) :=
  fun _ frame =>
    (.ok (Table.get? key frame.here), { frame with here := Table.erase key frame.here })

/-- Runs an action on the object under a key, which is made where there is none. -/
def nested (key : String) (action : Action World α) : Action World α :=
  fun place frame =>
    let (result, after) :=
      action (place.within key frame.here) { frame with here := frame.here.child key }
    (result, { after with here := frame.here.setChild key after.here })

/-- A nested action leaves every member but its own as it was. -/
theorem get?_nested_of_ne {key other : String} (different : other ≠ key)
    (action : Action World α) (place : Place) (frame : Frame World) :
    Table.get? other (nested key action place frame).2.here = Table.get? other frame.here :=
  Document.get?_setChild_of_ne different frame.here _

def nestedPath (path : List String) (action : Action World α) : Action World α :=
  path.foldr nested action

/-- A suspension with the whole document as it is now. -/
def suspension (seconds : Nat) : Action World Suspension :=
  fun place frame => (.ok (.of seconds (place.root frame.here)), frame)

/-- Stops the invocation, to be resumed after the interval. -/
def suspend (seconds : Nat) : Action World α := do
  fail (.suspended (← suspension seconds))

/-- Runs an action on a whole document. -/
def run (action : Action World α) (document : Document) (clock : Clock) (world : World) :
    Except TaskError α × Frame World :=
  action .top ⟨document, .empty, [], clock, world⟩

end Action

end Resumable
