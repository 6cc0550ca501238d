import Resumable.Json.Fields
import Resumable.Proofs.Table

/-!
Records read from objects. What a decoder makes of a record is settled field by field: each field
finds its member or falls back on its default, members that belong to no field are passed over, and
the order of the members does not matter.
-/

namespace Resumable.Json

theorem findDraft_eq (name : String) (members : List (String × Draft)) :
    findDraft name members = Table.get? name members := by
  induction members with
  | nil => rfl
  | cons member rest ih =>
      obtain ⟨key, draft⟩ := member
      rw [findDraft, Table.get?, ih]

namespace Fields

variable {α β : Type}

/-- Fields read a value, given a way to find their drafts. -/
structure Reads (fields : Fields α) (find : String → Option Draft) (value : α) : Prop where
  gathers : fields.gather find = .ok value
  checks : ∀ field ∈ fields.declared, ∀ draft, find field.name = some draft →
    field.check draft = .ok ()

variable {find : String → Option Draft} {name : String} {decoder : Decoder α} {value fallback : α}

theorem check_field {draft : Draft} (decodes : decoder draft = .ok value) (needed : Bool) :
    (field name needed decoder).check draft = .ok () := by
  simp only [field, decodes]
  rfl

theorem Reads.required {draft : Draft} (found : find name = some draft)
    (decodes : decoder draft = .ok value) : (required name decoder).Reads find value where
  gathers := by simp only [Fields.required, found, decodes]
  checks := by
    intro field member other again
    obtain rfl := List.mem_singleton.mp member
    obtain rfl : draft = other := Option.some.inj (found.symm.trans again)
    exact check_field decodes true

theorem Reads.optional {draft : Draft} (found : find name = some draft)
    (decodes : decoder draft = .ok value) : (optional name decoder fallback).Reads find value where
  gathers := by simp only [Fields.optional, found, decodes]
  checks := by
    intro field member other again
    obtain rfl := List.mem_singleton.mp member
    obtain rfl : draft = other := Option.some.inj (found.symm.trans again)
    exact check_field decodes false

theorem Reads.absent (absent : find name = none) :
    (Fields.optional name decoder fallback).Reads find fallback where
  gathers := by simp only [Fields.optional, absent]
  checks := by
    intro field member other found
    obtain rfl := List.mem_singleton.mp member
    cases absent.symm.trans found

theorem Reads.map {fields : Fields α} (reads : fields.Reads find value) (change : α → β) :
    (change <$> fields).Reads find (change value) where
  gathers := by
    change (fields.gather find).map change = _
    rw [reads.gathers]
    rfl
  checks := reads.checks

theorem Reads.seq {left : Fields (α → β)} {right : Fields α} {change : α → β}
    (first : left.Reads find change) (second : right.Reads find value) :
    (left <*> right).Reads find (change value) where
  gathers := by
    change (left.gather find >>= fun change => right.gather find >>= fun value =>
      pure (change value)) = _
    rw [first.gathers]
    change (right.gather find >>= fun value => pure (change value)) = _
    rw [second.gathers]
    rfl
  checks := by
    intro field member
    rcases List.mem_append.mp member with early | late
    · exact first.checks field early
    · exact second.checks field late

end Fields

theorem checkMembers_known {declared : List Field} {field : Field} {key : String} {draft : Draft}
    {rest : List (String × Draft)} {seen : List String}
    (found : declared.find? (·.name = key) = some field) (unseen : key ∉ seen) :
    checkMembers declared seen ((key, draft) :: rest) =
      (field.check draft >>= fun _ => checkMembers declared (key :: seen) rest) := by
  rw [checkMembers]
  simp only [found, if_neg unseen]

theorem checkMembers_ok {declared : List Field} {members : List (String × Draft)}
    {seen : List String} (distinct : (Table.keys members).Nodup)
    (fresh : ∀ key ∈ seen, key ∉ Table.keys members)
    (known : ∀ field ∈ declared, ∀ draft, (field.name, draft) ∈ members →
      field.check draft = .ok ())
    (others : ∀ member ∈ members, (∀ field ∈ declared, field.name ≠ member.1) →
      member.2.skip = .ok ()) :
    checkMembers declared seen members = .ok () := by
  induction members generalizing seen with
  | nil => rfl
  | cons member rest ih =>
      obtain ⟨key, draft⟩ := member
      obtain ⟨single, apart⟩ := List.nodup_cons.mp distinct
      have knownLater := fun field declared draft later =>
        known field declared draft (List.mem_cons_of_mem _ later)
      have othersLater := fun member later => others member (List.mem_cons_of_mem _ later)
      cases found : declared.find? (·.name = key) with
      | none =>
          have unknown : ∀ field ∈ declared, field.name ≠ key := by
            simpa using List.find?_eq_none.mp found
          rw [checkMembers, found]
          simp only
          rw [others (key, draft) List.mem_cons_self unknown]
          apply ih apart _ knownLater othersLater
          exact fun other earlier later => fresh other earlier (List.mem_cons_of_mem _ later)
      | some field =>
          have named : field.name = key := by simpa using List.find?_some found
          have checked := known field (List.mem_of_find?_eq_some found) draft
            (named ▸ List.mem_cons_self)
          have unseen : key ∉ seen := fun earlier => fresh key earlier List.mem_cons_self
          rw [checkMembers_known found unseen, checked]
          apply ih apart _ knownLater othersLater
          intro other earlier later
          rcases List.mem_cons.mp earlier with rfl | before
          · exact single later
          · exact fresh other before (List.mem_cons_of_mem _ later)

/-- An object decodes as a record when its fields read the value. -/
theorem decoder_object {α : Type} {fields : Fields α} {name : String}
    {members : List (String × Draft)} {ending : Ending} {value : α}
    (closed : ending.check = .ok ()) (distinct : (Table.keys members).Nodup)
    (others : ∀ member ∈ members, (∀ field ∈ fields.declared, field.name ≠ member.1) →
      member.2.skip = .ok ())
    (reads : fields.Reads (fun field => Table.get? field members) value) :
    fields.decoder name (.object members ending) = .ok value := by
  have checked : checkMembers fields.declared [] members = .ok () := by
    apply checkMembers_ok distinct _ _ others
    · intro key seen
      cases seen
    · intro field declared draft member
      exact reads.checks field declared draft (Table.get?_of_mem distinct member)
  have found : (fun field => findDraft field members) = fun field => Table.get? field members :=
    funext fun field => findDraft_eq field members
  rw [Fields.decoder, checked, closed, found, reads.gathers]
  rfl

end Resumable.Json
