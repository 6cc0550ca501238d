import Resumable.Proofs.Json.Built
import Resumable.Proofs.Json.Record

/-!
What older and newer writers make of a stored record. An older one leaves out fields that it does
not know, which is right as long as they have their default; a newer one adds members that the
record does not declare. Both may happen at every level at which there is a record, and nowhere
else. A record reads all variants of one stored value alike if each of its fields does.
-/

namespace Resumable.Json

/-- Which parts of a stored value are records. -/
inductive Shape where
  | plain
  /-- The declared members, each with the value it has when it is left out, if it may be. -/
  | record (members : List (String × Option Json × Shape))

mutual

/-- A stored value, and another that a different writer may have stored in its place. -/
inductive Variant : Shape → Json → Json → Prop where
  | same (value : Json) : Variant .plain value value
  | record {fields : List (String × Option Json × Shape)} {members others : Document}
      (distinct : (Table.keys others).Nodup)
      (carried : ∀ field ∈ fields, Carried field.2.1 field.2.2 (Table.get? field.1 members)
        (Table.get? field.1 others)) :
      Variant (.record fields) (.object members) (.object others)

/-- The same for one member; a member that has its default may be left out. -/
inductive Carried : Option Json → Shape → Option Json → Option Json → Prop where
  | absent {default? : Option Json} {shape : Shape} : Carried default? shape none none
  | kept {default? : Option Json} {shape : Shape} {value other : Json}
      (inner : Variant shape value other) : Carried default? shape (some value) (some other)
  | dropped {default : Json} {shape : Shape} : Carried (some default) shape (some default) none

end

namespace Variant

theorem eq_of_plain {value other : Json} (variant : Variant .plain value other) :
    other = value := by
  cases variant
  rfl

theorem of_record {fields : List (String × Option Json × Shape)} {members : Document}
    {other : Json} (variant : Variant (.record fields) (.object members) other) :
    ∃ others, other = .object others ∧ (Table.keys others).Nodup ∧
      ∀ field ∈ fields, Carried field.2.1 field.2.2 (Table.get? field.1 members)
        (Table.get? field.1 others) := by
  cases variant with
  | record distinct carried => exact ⟨_, rfl, distinct, carried⟩

theorem of_entries {fields : List (String × Option Json × Shape)} {entries : List (String × Json)}
    {other : Json} (distinct : (Table.keys entries).Nodup)
    (variant : Variant (.record fields) (.record entries) other) :
    ∃ others, other = .object others ∧ (Table.keys others).Nodup ∧
      ∀ field ∈ fields, Carried field.2.1 field.2.2 (Table.get? field.1 entries)
        (Table.get? field.1 others) := by
  obtain ⟨others, same, apart, carried⟩ := variant.of_record
  refine ⟨others, same, apart, ?_⟩
  intro field member
  rw [← Table.get?_ofList distinct]
  exact carried field member

theorem self {fields : List (String × Option Json × Shape)} {members : Document}
    (distinct : (Table.keys members).Nodup)
    (inner : ∀ field ∈ fields, ∀ stored, Table.get? field.1 members = some stored →
      Variant field.2.2 stored stored) :
    Variant (.record fields) (.object members) (.object members) := by
  refine .record distinct ?_
  intro field member
  cases found : Table.get? field.1 members with
  | none => exact .absent
  | some stored => exact .kept (inner field member stored found)

end Variant

section

variable {α : Type} {ending : Ending} {decoder : Decoder α} {value fallback : α} {name : String}
  {shape : Shape} {others : Document}

def memberIn (ending : Ending) (others : Document) (name : String) : Option Draft :=
  Table.get? name (Draft.builtMembers ending others)

theorem memberIn_eq {found : Option Json} (same : Table.get? name others = found) :
    memberIn ending others name = found.map (.built ending) := by
  rw [memberIn, Draft.get?_builtMembers, same]

theorem Carried.required {stored : Json}
    (carried : Carried none shape (some stored) (Table.get? name others))
    (decodes : ∀ other, Variant shape stored other → decoder (.built ending other) = .ok value) :
    (Fields.required name decoder).Reads (memberIn ending others) value := by
  generalize same : Table.get? name others = found at carried
  cases carried with
  | kept inner => exact .required (memberIn_eq same) (decodes _ inner)

theorem Carried.optional {default : Json} {stored? : Option Json}
    (carried : Carried (some default) shape stored? (Table.get? name others))
    (decodes : ∀ stored, stored? = some stored → ∀ other, Variant shape stored other →
      decoder (.built ending other) = .ok value)
    (left : stored? = none ∨ stored? = some default → value = fallback) :
    (Fields.optional name decoder fallback).Reads (memberIn ending others) value := by
  generalize same : Table.get? name others = found at carried
  cases carried with
  | absent =>
      rw [left (.inl rfl)]
      exact .absent (memberIn_eq same)
  | kept inner => exact .optional (memberIn_eq same) (decodes _ rfl _ inner)
  | dropped =>
      rw [left (.inr rfl)]
      exact .absent (memberIn_eq same)

theorem Carried.required_plain {stored : Json}
    (carried : Carried none .plain (some stored) (Table.get? name others))
    (decodes : decoder (.built ending stored) = .ok value) :
    (Fields.required name decoder).Reads (memberIn ending others) value := by
  apply carried.required
  intro other variant
  rw [variant.eq_of_plain]
  exact decodes

theorem Carried.optional_plain {default stored : Json}
    (carried : Carried (some default) .plain (some stored) (Table.get? name others))
    (decodes : decoder (.built ending stored) = .ok value)
    (left : stored = default → value = fallback) :
    (Fields.optional name decoder fallback).Reads (memberIn ending others) value := by
  apply carried.optional
  · rintro _ ⟨⟩ other variant
    rw [variant.eq_of_plain]
    exact decodes
  · rintro (absent | same)
    · cases absent
    · exact left (Option.some.inj same)

theorem skip_of_mem_builtMembers (whole : ending.Whole) {member : String × Draft}
    (within : member ∈ Draft.builtMembers ending others) : member.2.skip = .ok () := by
  induction others with
  | nil => cases within
  | cons first rest ih =>
      obtain ⟨key, inner⟩ := first
      rcases List.mem_cons.mp within with rfl | later
      · exact Draft.skip_built whole inner
      · exact ih later

theorem decoder_built (name : String) (whole : ending.Whole) {fields : Fields α}
    (distinct : (Table.keys others).Nodup) (reads : fields.Reads (memberIn ending others) value) :
    fields.decoder name (.built ending (.object others)) = .ok value := by
  rw [Draft.built]
  apply decoder_object rfl _ _ reads
  · rw [Draft.keys_builtMembers]
    exact distinct
  · intro member within _
    exact skip_of_mem_builtMembers whole within

end

end Resumable.Json
