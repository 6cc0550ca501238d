import Resumable.Action
import Resumable.Proofs.Table

/-!
Paths into a document, and actions run at the end of one. A scope is a view: what lies at the path
is what the action inside sees, and putting its document back along the path is all that the outside
sees of it. A path through a value that is no object leads to an empty document.
-/

namespace Resumable

namespace Document

/-- The document at the end of a path of keys. -/
def within (document : Document) (path : List String) : Document :=
  path.foldl child document

/-- Puts a document at the end of a path, making objects on the way where there are none. -/
def setWithin (document : Document) : List String → Document → Document
  | [], inner => inner
  | key :: rest, inner => document.setChild key ((document.child key).setWithin rest inner)

@[simp] theorem within_nil (document : Document) : document.within [] = document := rfl

@[simp] theorem within_cons (document : Document) (key : String) (rest : List String) :
    document.within (key :: rest) = (document.child key).within rest := rfl

theorem within_append (document : Document) (first second : List String) :
    document.within (first ++ second) = (document.within first).within second :=
  List.foldl_append

@[simp] theorem within_setWithin (document : Document) (path : List String) (inner : Document) :
    (document.setWithin path inner).within path = inner := by
  induction path generalizing document with
  | nil => rfl
  | cons key rest ih =>
      rw [setWithin, within_cons, child_setChild]
      exact ih (document.child key)

theorem setChild_setChild (document : Document) (key : String) (first second : Document) :
    (document.setChild key first).setChild key second = document.setChild key second := by
  rw [setChild, setChild, Table.insert_insert, setChild]

theorem setWithin_setWithin (document : Document) (path : List String) (first second : Document) :
    (document.setWithin path first).setWithin path second = document.setWithin path second := by
  induction path generalizing document with
  | nil => rfl
  | cons key rest ih =>
      rw [setWithin, setWithin, child_setChild, ih, setChild_setChild, setWithin]

theorem setWithin_append (document : Document) (first second : List String) (inner : Document) :
    document.setWithin (first ++ second) inner =
      document.setWithin first ((document.within first).setWithin second inner) := by
  induction first generalizing document with
  | nil => rfl
  | cons key rest ih => rw [List.cons_append, setWithin, ih, setWithin, within_cons]

theorem getOr_congr {α : Type} {codec : Json.Codec α} {key : String} {document other : Document}
    (same : Table.get? key document = Table.get? key other) (default : α) :
    document.getOr codec key default = other.getOr codec key default := by
  simp only [getOr, get, same]

theorem get_of_some {α : Type} {codec : Json.Codec α} {document : Document} {key : String}
    {stored : Json} {value : α} (present : stored ≠ .null)
    (found : Table.get? key document = some stored) (read : codec.decode stored = .ok value) :
    document.get codec key = .ok (some value) := by
  cases stored with
  | null => exact absurd rfl present
  | _ => simp only [get, found, read]

theorem getNullable_of_some {α : Type} {codec : Json.Codec α} {document : Document}
    {key : String} {stored : Json} {value : α} (found : Table.get? key document = some stored)
    (read : codec.decode stored = .ok value) : document.getNullable codec key = .ok value := by
  simp only [getNullable, found, Option.getD_some, read]

end Document

namespace Place

/-- The place at the end of a path, in the document that the path starts from. -/
def descend (place : Place) : List String → Document → Place
  | [], _ => place
  | key :: rest, here => (place.within key here).descend rest (here.child key)

@[simp] theorem root_top (here : Document) : top.root here = here := rfl

@[simp] theorem root_within (place : Place) (key : String) (outer here : Document) :
    (place.within key outer).root here = place.root (outer.setChild key here) := rfl

theorem root_descend (place : Place) (path : List String) (outer here : Document) :
    (place.descend path outer).root here = place.root (outer.setWithin path here) := by
  induction path generalizing place outer with
  | nil => rfl
  | cons key rest ih =>
      rw [descend, ih, root_within]
      rfl

end Place

def Frame.enter {World : Type} (frame : Frame World) (key : String) : Frame World :=
  { frame with here := frame.here.child key }

namespace Action

variable {World α : Type}

theorem nested_eq {key : String} {action : Action World α} {place : Place}
    {frame inner : Frame World} {result : Except TaskError α}
    (ran : action (place.within key frame.here) (frame.enter key) = (result, inner)) :
    nested key action place frame =
      (result, { inner with here := frame.here.setChild key inner.here }) := by
  simp only [nested]
  rw [show action (place.within key frame.here) { frame with here := frame.here.child key } = _
    from ran]

theorem of_nested {key : String} {action : Action World α} {place : Place}
    {frame after : Frame World} {result : Except TaskError α}
    (ended : nested key action place frame = (result, after)) :
    ∃ inner, action (place.within key frame.here) (frame.enter key) = (result, inner) ∧
      after = { inner with here := frame.here.setChild key inner.here } := by
  simp only [nested, Prod.mk.injEq] at ended
  obtain ⟨same, rfl⟩ := ended
  exact ⟨_, Prod.ext same rfl, rfl⟩

/-- An action at the end of a path runs on the document there and is put back as a whole. -/
theorem nestedPath_eq (path : List String) (action : Action World α) (place : Place)
    (frame : Frame World) :
    nestedPath path action place frame =
      let ran := action (place.descend path frame.here)
        { frame with here := frame.here.within path }
      (ran.1, { ran.2 with here := frame.here.setWithin path ran.2.here }) := by
  induction path generalizing place frame with
  | nil => rfl
  | cons key rest ih =>
      change nested key (nestedPath rest action) place frame = _
      simp only [nested, ih]
      rfl

end Action

end Resumable
