import Resumable.Error

/-!
Typed access to the members of a document. To `get`, null is the same as no member; to `getNullable`
no member is the same as null.
-/

namespace Resumable.Document

def get {α : Type} (document : Document) (codec : Json.Codec α) (key : String) :
    Except StateError (Option α) :=
  match Table.get? key document with
  | none | some .null => .ok none
  | some value =>
      match codec.decode value with
      | .ok decoded => .ok (some decoded)
      | .error source => .error (.decode key source)

def getOr {α : Type} (document : Document) (codec : Json.Codec α) (key : String) (default : α) :
    Except StateError α :=
  (document.get codec key).map (·.getD default)

def getNullable {α : Type} (document : Document) (codec : Json.Codec α) (key : String) :
    Except StateError α :=
  match codec.decode ((Table.get? key document).getD .null) with
  | .ok decoded => .ok decoded
  | .error source => .error (.decode key source)

/-- A value that cannot be stored leaves the document as it is. -/
def set {α : Type} (document : Document) (codec : Json.Codec α) (key : String) (value : α) :
    Except StateError Document :=
  match codec.encode value with
  | .ok stored => .ok (Table.insert key stored document)
  | .error source => .error (.encode key source)

/-- The object under a key; anything else there counts as an empty one. -/
def child (document : Document) (key : String) : Document :=
  match Table.get? key document with
  | some (.object inner) => inner
  | _ => []

def setChild (document : Document) (key : String) (inner : Document) : Document :=
  Table.insert key (.object inner) document

@[simp] theorem child_setChild (document : Document) (key : String) (inner : Document) :
    (document.setChild key inner).child key = inner := by
  simp [child, setChild]

theorem get?_setChild_of_ne {key other : String} (different : other ≠ key) (document : Document)
    (inner : Document) :
    Table.get? other (document.setChild key inner) = Table.get? other document := by
  rw [setChild, Table.get?_insert_of_ne different]

theorem child_setChild_of_ne {key other : String} (different : other ≠ key) (document : Document)
    (inner : Document) : (document.setChild key inner).child other = document.child other := by
  simp only [child, get?_setChild_of_ne different]

end Resumable.Document
