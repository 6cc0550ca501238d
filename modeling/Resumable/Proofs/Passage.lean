import Resumable.Proofs.Apart
import Resumable.Proofs.WellFormed

/-!
The way down a path. Either all prefixes of the path lead to objects, or there is a first one that
does not, the gap. Putting back what is found at the end of the path leaves a document as it is in
the first case; in the second it fills the gap with a chain of objects for the rest of the path.
-/

namespace Resumable

/-- Objects inside one another, each with the next key alone, and an empty one at the end. -/
def Json.chain (keys : List String) : Json :=
  keys.foldr (fun key inner => .object [(key, inner)]) (.object [])

namespace Document

/-- There is an object at the end of the path. -/
def HasObject (document : Document) (path : List String) : Prop :=
  ∃ members, (Json.object document).valueAt? path = some (.object members)

/-- There are objects all the way down a path. -/
def Passable (document : Document) (path : List String) : Prop :=
  ∀ first, first <+: path → document.HasObject first

/-- The first place on a path where there is no object: the keys up to it, its own, and the rest. -/
structure Gap (document : Document) (path scope : List String) (key : String)
    (rest : List String) : Prop where
  split : path = scope ++ key :: rest
  before : document.Passable scope
  missing : ¬ document.HasObject (scope ++ [key])

variable {document : Document} {path scope rest : List String} {key : String}

theorem hasObject_nil (document : Document) : document.HasObject [] := ⟨document, rfl⟩

theorem valueAt?_single (document : Document) (key : String) :
    (Json.object document).valueAt? [key] = Table.get? key document :=
  memberAt_eq document [] key

theorem valueAt?_of_object {inner : Document}
    (slot : Table.get? key document = some (.object inner)) (rest : List String) :
    (Json.object document).valueAt? (key :: rest) = (Json.object inner).valueAt? rest := by
  rw [valueAt?_cons, slot, Option.bind_some]

theorem hasObject_cons :
    document.HasObject (key :: rest) ↔
      ∃ inner, Table.get? key document = some (.object inner) ∧ HasObject inner rest := by
  constructor
  · rintro ⟨members, found⟩
    rw [valueAt?_cons, Option.bind_eq_some_iff] at found
    obtain ⟨value, slot, below⟩ := found
    cases value with
    | object inner => exact ⟨inner, slot, members, below⟩
    | _ =>
        -- Only the path that ends here leads to a value that is no object.
        cases rest with
        | nil => cases below
        | cons next rest => cases below
  · rintro ⟨inner, slot, members, below⟩
    exact ⟨members, (valueAt?_of_object slot rest).trans below⟩

theorem HasObject.passable (object : document.HasObject path) : document.Passable path := by
  intro first before
  induction first generalizing document path with
  | nil => exact hasObject_nil document
  | cons key first ih =>
      cases path with
      | nil => cases List.prefix_nil.mp before
      | cons head rest =>
          obtain ⟨rfl, within⟩ := List.cons_prefix_cons.mp before
          obtain ⟨inner, slot, below⟩ := hasObject_cons.mp object
          exact hasObject_cons.mpr ⟨inner, slot, ih below within⟩

theorem Passable.hasObject (passable : document.Passable path) : document.HasObject path :=
  passable path List.prefix_rfl

theorem passable_or_gap (document : Document) (path : List String) :
    document.Passable path ∨ ∃ scope key rest, document.Gap path scope key rest := by
  induction path using List.reverseRecOn with
  | nil => exact .inl (hasObject_nil document).passable
  | append_singleton path last ih =>
      rcases ih with passable | ⟨scope, key, rest, split, before, missing⟩
      · by_cases object : document.HasObject (path ++ [last])
        · exact .inl object.passable
        · exact .inr ⟨path, last, [], rfl, passable, object⟩
      · refine .inr ⟨scope, key, rest ++ [last], ?_, before, missing⟩
        rw [split, List.append_assoc, List.cons_append]

theorem valueAt?_end (document : Document) (path : List String) (inner : Document) :
    (Json.object (document.setWithin path inner)).valueAt? path = some (.object inner) := by
  induction path generalizing document with
  | nil => rfl
  | cons key rest ih =>
      rw [setWithin, valueAt?_cons, setChild, Table.get?_insert_self]
      exact ih (document.child key)

/-- Where there are objects all the way down, putting back what lies at the end changes nothing. -/
theorem setWithin_of_hasObject (wellFormed : document.WellFormed)
    (object : document.HasObject path) :
    document.setWithin path (document.within path) = document := by
  induction path generalizing document with
  | nil => rfl
  | cons key rest ih =>
      obtain ⟨inner, slot, below⟩ := hasObject_cons.mp object
      have same : document.child key = inner := by rw [child, slot]
      have kept : setWithin inner rest (within inner rest) = inner :=
        ih (same ▸ wellFormed.child key) below
      rw [setWithin, within_cons, same, kept, setChild, Table.insert_eq_self wellFormed.1 slot]

theorem WellFormed.within (wellFormed : document.WellFormed) (path : List String) :
    (document.within path).WellFormed := by
  induction path generalizing document with
  | nil => exact wellFormed
  | cons key rest ih => exact ih (wellFormed.child key)

theorem WellFormed.setWithin {inner : Document} (wellFormed : document.WellFormed)
    (path : List String) (below : inner.WellFormed) :
    (document.setWithin path inner).WellFormed := by
  induction path generalizing document with
  | nil => exact below
  | cons key rest ih => exact wellFormed.setChild key (ih (wellFormed.child key))

theorem within_of_empty (path : List String) : within [] path = [] := by
  induction path with
  | nil => rfl
  | cons key rest ih => exact ih

/-- From an empty document a path leads through a chain. -/
theorem setWithin_of_empty (path : List String) :
    Json.object (setWithin [] path []) = Json.chain path := by
  induction path with
  | nil => rfl
  | cons key rest ih => exact congrArg (fun inner => Json.object [(key, inner)]) ih

theorem child_of_missing (missing : ¬ document.HasObject (scope ++ [key])) :
    (document.within scope).child key = [] := by
  rw [child]
  split
  · rename_i members found
    rw [← memberAt_eq] at found
    exact absurd ⟨members, found⟩ missing
  · rfl

/-- Behind a gap there is nothing, so that all of the rest is made anew. -/
theorem Gap.setWithin_eq (gap : document.Gap path scope key rest) :
    document.setWithin path (document.within path) =
      document.setWithin scope (Table.insert key (Json.chain rest) (document.within scope)) := by
  have empty := child_of_missing gap.missing
  rw [gap.split, setWithin_append, within_append, within_cons, setWithin, empty, within_of_empty,
    setChild, setWithin_of_empty]

section Unique

variable {other more : List String} {next : String}

-- A gap further down would have objects at all prefixes up to it, and so at this one.
theorem Gap.length_le (gap : document.Gap path scope key rest)
    (second : document.Gap path other next more) : other.length ≤ scope.length := by
  by_contra longer
  have slot : scope ++ [key] <+: path := by
    rw [gap.split, List.append_cons scope key rest]
    exact List.prefix_append (scope ++ [key]) rest
  have way : other <+: path := ⟨next :: more, second.split.symm⟩
  have length : (scope ++ [key]).length ≤ other.length := by
    rw [List.length_append, List.length_singleton]
    omega
  exact gap.missing (second.before _ (List.prefix_of_prefix_length_le slot way length))

theorem Gap.unique (gap : document.Gap path scope key rest)
    (second : document.Gap path other next more) : scope = other ∧ key = next ∧ rest = more := by
  have length : scope.length = other.length :=
    Nat.le_antisymm (second.length_le gap) (gap.length_le second)
  obtain ⟨same, behind⟩ := List.append_inj (gap.split.symm.trans second.split) length
  exact ⟨same, List.cons.inj behind⟩

end Unique

variable {first second : Document}

theorem SameBut.get?_eq {name : String} (same : SameBut scope [key] first second)
    (apart : Apart [name] (scope ++ [key])) :
    Table.get? name first = Table.get? name second := by
  rw [← valueAt?_single, ← valueAt?_single]
  refine (same [name] ?_).symm
  intro changed member
  rwa [List.mem_singleton.mp member]

/-- Two documents that differ at most in one member of the object at the end of a path, and not in
that, are the same. -/
theorem eq_of_sameBut (wellFormed : first.WellFormed) (other : second.WellFormed)
    (object : first.HasObject scope) (opposite : second.HasObject scope)
    (member : first.memberAt scope key = second.memberAt scope key)
    (same : SameBut scope [key] first second) : first = second := by
  induction scope generalizing first second with
  | nil =>
      apply Table.eq_of_get? wellFormed.1 other.1
      intro name
      by_cases here : name = key
      · subst here
        rwa [memberAt_eq, memberAt_eq] at member
      · exact same.get?_eq (.fork here [] [])
  | cons next scope ih =>
      obtain ⟨inner, slot, below⟩ := hasObject_cons.mp object
      obtain ⟨inside, place, beneath⟩ := hasObject_cons.mp opposite
      have equal : inner = inside := by
        apply ih (Json.wellFormed_of_get? wellFormed.2 slot)
          (Json.wellFormed_of_get? other.2 place) below beneath
        · rwa [memberAt, memberAt, List.cons_append, valueAt?_of_object slot,
            valueAt?_of_object place] at member
        · intro path apart
          rw [← valueAt?_of_object slot, ← valueAt?_of_object place]
          exact same (next :: path) fun changed member => .under next (apart changed member)
      apply Table.eq_of_get? wellFormed.1 other.1
      intro name
      by_cases here : name = next
      · rw [here, slot, place, equal]
      · exact same.get?_eq (.fork here [] _)

end Document

end Resumable
