import Resumable.Proofs.Passage

/-!
How a scope is reached. A scope is held as the whole document and the keys that lead to its object.
Deriving the scope under a key goes down from the root again, and makes an object of whatever else
lies on the way. So the document stays as it is if there are objects all the way down. Otherwise the
first slot that holds none is filled with objects for the rest of the way, and nothing else is
touched. No other document fits this description, and it is the one that actions in the scope see.
-/

namespace Resumable

/-- The members of an object. Any other value gives way to an object with none. -/
def Json.asObject : Json → Document
  | .object members => members
  | _ => []

namespace Document

/-- Goes down a path and changes the object at its end in place. A slot on the way that there is
not is made with an empty object in it. -/
def changeAt (document : Document) (update : Document → Document) : List String → Document
  | [] => update document
  | key :: rest =>
      let slot := (Table.get? key document).getD (.object [])
      document.setChild key (slot.asObject.changeAt update rest)

theorem changeAt_eq (document : Document) (update : Document → Document) (path : List String) :
    document.changeAt update path = document.setWithin path (update (document.within path)) := by
  induction path generalizing document with
  | nil => rfl
  | cons key rest ih =>
      have same : ((Table.get? key document).getD (.object [])).asObject = document.child key := by
        rw [child]
        cases Table.get? key document with
        | none => rfl
        | some value => cases value <;> rfl
      rw [changeAt, ih, same, setWithin, within_cons]

end Document

/-- A scope as it is held: the whole document, and the keys from the root to the object in scope. -/
structure Scope where
  root : Document
  path : List String

namespace Scope

def top (document : Document) : Scope := ⟨document, []⟩

def change (scope : Scope) (update : Document → Document) : Scope :=
  { scope with root := scope.root.changeAt update scope.path }

/-- The scope under a key. Its object is made at once. -/
def nested (scope : Scope) (key : String) : Scope :=
  Scope.change ⟨scope.root, scope.path ++ [key]⟩ id

def insert (scope : Scope) (key : String) (stored : Json) : Scope :=
  scope.change (Table.insert key stored)

/-- Derives one scope from the other, down a path. -/
def reach (document : Document) (path : List String) : Scope := path.foldl nested (top document)

theorem nested_eq (scope : Scope) (key : String) :
    scope.nested key =
      let path := scope.path ++ [key]
      ⟨scope.root.setWithin path (scope.root.within path), path⟩ := by
  rw [nested, change, Document.changeAt_eq, id]

theorem reach_concat (document : Document) (path : List String) (key : String) :
    reach document (path ++ [key]) = (reach document path).nested key :=
  List.foldl_append

-- By induction on the scopes derived so far: they have made the way up to the last key.
theorem reach_eq (document : Document) (path : List String) :
    reach document path = ⟨document.setWithin path (document.within path), path⟩ := by
  induction path using List.reverseRecOn with
  | nil => rfl
  | append_singleton path key ih =>
      rw [reach_concat, ih, nested_eq]
      simp only [Document.within_append, Document.within_setWithin, Document.setWithin_append,
        Document.setWithin_setWithin]

theorem root_reach (document : Document) (path : List String) :
    (reach document path).root = document.setWithin path (document.within path) := by
  rw [reach_eq]

theorem reach_reached (document : Document) (path : List String) :
    reach (reach document path).root path = reach document path := by
  simp only [reach_eq, Document.within_setWithin, Document.setWithin_setWithin]

theorem root_insert (document : Document) (path : List String) (key : String) (stored : Json) :
    ((reach document path).insert key stored).root =
      document.setWithin path (Table.insert key stored (document.within path)) := by
  simp only [insert, change, reach_eq, Document.changeAt_eq, Document.within_setWithin,
    Document.setWithin_setWithin]

end Scope

/-- What reaching a scope may make of a document. There are objects all the way down, and where
there were before, it is the same document. Otherwise the slot at the gap holds a chain for the
rest of the way, and every value on another path is what it was. -/
structure Reached (document : Document) (path : List String) (reached : Document) : Prop where
  wellFormed : reached.WellFormed
  passable : reached.Passable path
  unchanged : document.Passable path → reached = document
  filled : ¬ document.Passable path → ∃ scope key rest, document.Gap path scope key rest ∧
    reached.memberAt scope key = some (.chain rest) ∧ document.SameBut scope [key] reached

theorem Scope.reached {document : Document} (wellFormed : document.WellFormed)
    (path : List String) : Reached document path (reach document path).root := by
  rw [root_reach]
  constructor
  case wellFormed => exact wellFormed.setWithin path (wellFormed.within path)
  case passable => exact Document.HasObject.passable ⟨_, Document.valueAt?_end document path _⟩
  case unchanged =>
    intro passable
    exact Document.setWithin_of_hasObject wellFormed passable.hasObject
  case filled =>
    intro blocked
    obtain ⟨scope, key, rest, gap⟩ := (document.passable_or_gap path).resolve_left blocked
    rw [gap.setWithin_eq]
    refine ⟨scope, key, rest, gap, ?_, ?_⟩
    · rw [Document.memberAt_setWithin, Table.get?_insert_self]
    · apply Document.sameBut_setWithin List.mem_cons_self
      intro other different
      exact Table.get?_insert_of_ne (List.ne_of_not_mem_cons different) _ _

theorem Reached.unique {document first second : Document} {path : List String}
    (reached : Reached document path first) (other : Reached document path second) :
    first = second := by
  by_cases passable : document.Passable path
  · rw [reached.unchanged passable, other.unchanged passable]
  · obtain ⟨scope, key, rest, gap, member, same⟩ := reached.filled passable
    obtain ⟨way, next, more, second, slot, alike⟩ := other.filled passable
    obtain ⟨rfl, rfl, rfl⟩ := gap.unique second
    have before : scope <+: path := ⟨key :: rest, gap.split.symm⟩
    exact Document.eq_of_sameBut reached.wellFormed other.wellFormed
      (reached.passable scope before) (other.passable scope before) (member.trans slot.symm)
      fun aside apart => (alike aside apart).trans (same aside apart).symm

namespace Action

variable {World α : Type}

/-- The whole document, as it is seen from the scope. -/
def root : Action World Document := fun place frame => (.ok (place.root frame.here), frame)

theorem run_nestedPath_root (path : List String) (document : Document) (clock : Clock)
    (world : World) :
    let reached := (Scope.reach document path).root
    (nestedPath path root).run document clock world =
      (.ok reached, ⟨reached, .empty, [], clock, world⟩) := by
  simp only [run, nestedPath_eq, root, Place.root_descend, Place.root_top, Scope.root_reach]

theorem run_nestedPath_set (path : List String) (codec : Json.Codec α) (key : String) (value : α)
    (document : Document) (clock : Clock) (world : World) :
    (nestedPath path (bind (set codec key value) fun _ => root)).run document clock world =
      match codec.encode value with
      | .ok stored =>
          let written := ((Scope.reach document path).insert key stored).root
          (.ok written, ⟨written, .empty, [], clock, world⟩)
      | .error source =>
          (.error (.state (.encode key source)),
            ⟨(Scope.reach document path).root, .empty, [], clock, world⟩) := by
  simp only [run, nestedPath_eq, bind, set, Document.set]
  cases codec.encode value with
  | ok stored =>
      simp only [root, Place.root_descend, Place.root_top, Scope.root_insert]
  | error source => simp only [Scope.root_reach]

end Action

/-- Whatever a document holds on the way to a scope, scopes derived one from the other down the path
and actions run at its end come to the same document, the only one that is reached. Deriving them
again changes nothing. What a write in the scope stores is read from the root; a value that cannot
be stored leaves the document as it was reached. -/
theorem scope_is_reached_minimally {World : Type} {document : Document}
    (wellFormed : document.WellFormed) (path : List String) (clock : Clock) (world : World) :
    let scope := Scope.reach document path
    let look := Action.nestedPath path Action.root
    look.run document clock world = (.ok scope.root, ⟨scope.root, .empty, [], clock, world⟩) ∧
      (∀ reached, Reached document path reached ↔ reached = scope.root) ∧
      Scope.reach scope.root path = scope ∧
      look.run scope.root clock world = look.run document clock world ∧
      ∀ {α : Type} (codec : Json.Codec α) (key : String) (value : α),
        let write := Action.bind (Action.set codec key value) fun _ => Action.root
        let ran := (Action.nestedPath path write).run document clock world
        match codec.encode value with
        | .ok stored =>
            let written := (scope.insert key stored).root
            ran = (.ok written, ⟨written, .empty, [], clock, world⟩) ∧
              written.memberAt path key = some stored
        | .error source =>
            ran = (.error (.state (.encode key source)),
              ⟨scope.root, .empty, [], clock, world⟩) := by
  intro scope look
  have again : Scope.reach scope.root path = scope := Scope.reach_reached document path
  have seen := Action.run_nestedPath_root path document clock world
  refine ⟨seen, ?_, again, ?_, ?_⟩
  · intro reached
    constructor
    · exact fun other => other.unique (Scope.reached wellFormed path)
    · rintro rfl
      exact Scope.reached wellFormed path
  · have same := Action.run_nestedPath_root path scope.root clock world
    rw [again] at same
    exact same.trans seen.symm
  · intro α codec key value write ran
    have wrote := Action.run_nestedPath_set path codec key value document clock world
    cases encoded : codec.encode value with
    | ok stored =>
        rw [encoded] at wrote
        refine ⟨wrote, ?_⟩
        rw [Scope.root_insert, Document.memberAt_setWithin, Table.get?_insert_self]
    | error source =>
        rw [encoded] at wrote
        exact wrote

def blockedWay : Document := [("jobs", .array [.nat 1]), ("outer", .null)]

def clearedWay : Document := [("jobs", .array [.nat 1]), ("outer", .object [("inner", .object [])])]

theorem wellFormed_blockedWay : blockedWay.WellFormed := by
  have ascending : ["jobs", "outer"].Pairwise (· < ·) := by decide
  have inRange : (Json.nat 1).WellFormed := by
    constructor <;> decide
  exact ⟨List.pairwise_map.mp ascending, ⟨inRange, trivial⟩, trivial, trivial⟩

theorem null_gives_way_to_scope :
    blockedWay.WellFormed ∧
      (Action.nestedPath ["outer", "inner"] Action.root).run blockedWay ⟨0⟩ () =
        (.ok clearedWay, ⟨clearedWay, .empty, [], ⟨0⟩, ()⟩) ∧
      Reached blockedWay ["outer", "inner"] clearedWay ∧
      ((Scope.reach blockedWay ["outer", "inner"]).insert "retry" (.nat 1)).root.memberAt
        ["outer", "inner"] "retry" = some (.nat 1) := by
  have cleared : (Scope.reach blockedWay ["outer", "inner"]).root = clearedWay := rfl
  obtain ⟨seen, only, _, _, writes⟩ :=
    scope_is_reached_minimally wellFormed_blockedWay ["outer", "inner"] ⟨0⟩ ()
  obtain ⟨_, read⟩ := writes .count "retry" 1
  rw [cleared] at seen only
  exact ⟨wellFormed_blockedWay, seen, (only clearedWay).mpr rfl, read⟩

end Resumable
