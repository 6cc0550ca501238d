import Resumable.Proofs.Scope

/-!
Paths that part. Of two such paths neither leads through the end of the other, though they may share
their first keys. Putting a document at the end of one leaves the other alone, also where a value on
the way is no object and is replaced: what is not there before is not there after. What changes at
the end of a path changes the document nowhere else.
-/

namespace Resumable

/-- Two paths with the same first keys and then different ones. -/
inductive Apart : List String → List String → Prop where
  | fork {left right : String} (different : left ≠ right) (first second : List String) :
      Apart (left :: first) (right :: second)
  | under {first second : List String} (key : String) (apart : Apart first second) :
      Apart (key :: first) (key :: second)

namespace Apart

theorem symm {first second : List String} (apart : Apart first second) : Apart second first := by
  induction apart with
  | fork different first second => exact .fork (Ne.symm different) second first
  | under key _ ih => exact .under key ih

theorem of_not_prefix {first second : List String} (forward : ¬ first <+: second)
    (backward : ¬ second <+: first) : Apart first second := by
  induction first generalizing second with
  | nil => exact absurd List.nil_prefix forward
  | cons left first ih =>
      cases second with
      | nil => exact absurd List.nil_prefix backward
      | cons right second =>
          by_cases same : left = right
          · subst same
            rw [List.cons_prefix_cons] at forward backward
            exact .under left (ih (fun inner => forward ⟨rfl, inner⟩)
              fun inner => backward ⟨rfl, inner⟩)
          · exact .fork same first second

theorem not_prefix {first second : List String} (apart : Apart first second) :
    ¬ first <+: second := by
  induction apart with
  | fork different first second =>
      rw [List.cons_prefix_cons]
      exact fun same => different same.1
  | under key _ ih =>
      rw [List.cons_prefix_cons]
      exact fun inner => ih inner.2

theorem of_append {first second : List String} (scope : List String)
    (apart : Apart (scope ++ first) (scope ++ second)) : Apart first second := by
  induction scope with
  | nil => exact apart
  | cons key rest ih =>
      cases apart with
      | fork different _ _ => exact absurd rfl different
      | under _ inner => exact ih inner

end Apart

/-- The value at the end of a path, if there is one. -/
def Json.valueAt? (value : Json) : List String → Option Json
  | [] => some value
  | key :: rest =>
      match value with
      | .object members => (Table.get? key members).bind fun inner => inner.valueAt? rest
      | _ => none

namespace Document

theorem valueAt?_cons (document : Document) (key : String) (rest : List String) :
    (Json.object document).valueAt? (key :: rest) =
      (Table.get? key document).bind fun inner => inner.valueAt? rest := rfl

-- A value that is no object has nothing below it, and neither has the object put in its place.
theorem valueAt?_child (document : Document) (key next : String) (rest : List String) :
    (Json.object (document.child key)).valueAt? (next :: rest) =
      (Json.object document).valueAt? (key :: next :: rest) := by
  rw [valueAt?_cons document, child]
  cases Table.get? key document with
  | none => rfl
  | some value => cases value <;> rfl

variable {first second : List String}

theorem valueAt?_setWithin (apart : Apart first second) (document inner : Document) :
    (Json.object (document.setWithin second inner)).valueAt? first =
      (Json.object document).valueAt? first := by
  induction apart generalizing document with
  | fork different first second =>
      rw [setWithin, valueAt?_cons, valueAt?_cons, get?_setChild_of_ne different]
  | @under first second key apart ih =>
      cases first with
      | nil => cases apart
      | cons next rest =>
          rw [setWithin, ← valueAt?_child, ← valueAt?_child, child_setChild]
          exact ih (document.child key)

theorem within_setWithin_of_apart (apart : Apart first second) (document inner : Document) :
    (document.setWithin second inner).within first = document.within first := by
  induction apart generalizing document with
  | fork different first second =>
      rw [setWithin, within_cons, within_cons, child_setChild_of_ne different]
  | under key _ ih =>
      rw [setWithin, within_cons, within_cons, child_setChild]
      exact ih (document.child key)

theorem setWithin_comm (apart : Apart first second) (document left right : Document) :
    (document.setWithin first left).setWithin second right =
      (document.setWithin second right).setWithin first left := by
  induction apart generalizing document with
  | fork different first second =>
      rw [setWithin, setWithin, setWithin, setWithin, child_setChild_of_ne different,
        child_setChild_of_ne (Ne.symm different)]
      exact (Table.insert_comm (Ne.symm different) _ _ document)
  | under key _ ih =>
      rw [setWithin, setWithin, setWithin, setWithin, child_setChild, child_setChild, ih]
      rw [setChild_setChild, setChild_setChild]

theorem valueAt?_append (document : Document) (scope : List String) (key : String)
    (rest : List String) :
    (Json.object document).valueAt? (scope ++ key :: rest) =
      (Json.object (document.within scope)).valueAt? (key :: rest) := by
  induction scope generalizing document with
  | nil => rfl
  | cons first later ih =>
      rw [within_cons, ← ih (document.child first)]
      cases later with
      | nil => exact (valueAt?_child document first key rest).symm
      | cons next others => exact (valueAt?_child document first next (others ++ key :: rest)).symm

/-- A member of the object at the end of a path. -/
def memberAt (document : Document) (scope : List String) (key : String) : Option Json :=
  (Json.object document).valueAt? (scope ++ [key])

theorem memberAt_eq (document : Document) (scope : List String) (key : String) :
    document.memberAt scope key = Table.get? key (document.within scope) := by
  rw [memberAt, valueAt?_append, valueAt?_cons]
  cases Table.get? key (document.within scope) <;> rfl

theorem memberAt_setWithin (document : Document) (scope : List String) (inner : Document)
    (key : String) :
    (document.setWithin scope inner).memberAt scope key = Table.get? key inner := by
  rw [memberAt_eq, within_setWithin]

/-- Two documents differ in no more than these members of the object at the end of a path, and in
what makes that an object. -/
def SameBut (scope keys : List String) (document other : Document) : Prop :=
  ∀ path, (∀ key ∈ keys, Apart path (scope ++ [key])) →
    (Json.object other).valueAt? path = (Json.object document).valueAt? path

theorem sameBut_setWithin {scope keys : List String} {document inner : Document} {changed : String}
    (member : changed ∈ keys)
    (kept : ∀ key, key ∉ keys → Table.get? key inner = Table.get? key (document.within scope)) :
    SameBut scope keys document (document.setWithin scope inner) := by
  intro path apart
  have aside := apart changed member
  by_cases below : scope <+: path
  · -- The path leads on from the scope, through a member of another key.
    obtain ⟨rest, rfl⟩ := below
    cases rest with
    | nil =>
        rw [List.append_nil] at aside
        exact absurd (List.prefix_append scope [changed]) aside.not_prefix
    | cons key rest =>
        have other : key ∉ keys := by
          intro same
          cases (apart key same).of_append scope with
          | fork different _ _ => exact different rfl
          | under _ inner => cases inner
        rw [valueAt?_append, valueAt?_append, within_setWithin, valueAt?_cons, valueAt?_cons,
          kept key other]
  · refine valueAt?_setWithin (Apart.of_not_prefix (fun above => ?_) below) document inner
    exact aside.not_prefix (above.trans (List.prefix_append scope [changed]))

end Document

end Resumable
