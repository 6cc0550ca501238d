import Resumable.Json.Decoder

/-!
Records with named fields. A record is decoded from an object, whose unknown members are passed
over, or from an array with the fields in order of declaration. Fields that may be left out have a
default.
-/

namespace Resumable.Json

structure Field where
  name : String
  required : Bool
  /-- Whether a draft decodes as this field. -/
  check : Draft → Except ReadError Unit

/-- Fields in order of declaration, and the value they make up given a way to find their drafts. -/
structure Fields (α : Type) where
  declared : List Field
  gather : (String → Option Draft) → Except ReadError α

namespace Fields

def field {α : Type} (name : String) (required : Bool) (decoder : Decoder α) : Field :=
  ⟨name, required, fun draft => (decoder draft).map fun _ => ()⟩

def required {α : Type} (name : String) (decoder : Decoder α) : Fields α where
  declared := [field name true decoder]
  gather find :=
    match find name with
    | some draft => decoder draft
    | none => .error (.mismatch (.missingField name))

def optional {α : Type} (name : String) (decoder : Decoder α) (default : α) : Fields α where
  declared := [field name false decoder]
  gather find :=
    match find name with
    | some draft => decoder draft
    | none => .ok default

def map {α β : Type} (change : α → β) (fields : Fields α) : Fields β where
  declared := fields.declared
  gather find := (fields.gather find).map change

def seq {α β : Type} (left : Fields (α → β)) (right : Fields α) : Fields β where
  declared := left.declared ++ right.declared
  gather find := do
    let change ← left.gather find
    let value ← right.gather find
    return change value

instance : Functor Fields := ⟨map, fun value fields => map (fun _ => value) fields⟩

instance : Seq Fields := ⟨fun left right => seq left (right ())⟩

end Fields

def findDraft (name : String) : List (String × Draft) → Option Draft
  | [] => none
  | (key, draft) :: rest => if key = name then some draft else findDraft name rest

/-- Looks at members in reading order: known ones must decode and stand once. -/
def checkMembers (declared : List Field) : List String → List (String × Draft) →
    Except ReadError Unit
  | _, [] => .ok ()
  | seen, (key, draft) :: rest =>
      match declared.find? (·.name = key) with
      | none => do
          ofFlaw draft.skip
          checkMembers declared seen rest
      | some field => do
          if key ∈ seen then throw (.mismatch (.duplicateField key))
          field.check draft
          checkMembers declared (key :: seen) rest

/-- Looks at items in order of the fields, and gives back those that belong to none. -/
def checkItems (name : String) (count : Nat) (ending : Ending) :
    Nat → List Field → List Draft → Except ReadError (List Draft)
  | _, [], items => .ok items
  | index, field :: fields, [] => do
      ofFlaw ending.check
      if field.required then throw (.mismatch (.tooShort index name count))
      checkItems name count ending (index + 1) fields []
  | index, field :: fields, item :: items => do
      field.check item
      checkItems name count ending (index + 1) fields items

/-- Nothing may follow the items of the fields. -/
def checkSurplus (length : Nat) (ending : Ending) (surplus : List Draft) : Except ReadError Unit :=
  match surplus, ending with
  | [], .broken wanted _ =>
      if wanted.cause.isEnd then .error (.flaw wanted)
      else .error (.flaw { wanted with cause := .trailingCharacters })
  | [], _ => .ok ()
  | _ :: _, .counted => .error (.mismatch (.tooLong length))
  | _ :: _, _ => .error (.flaw ⟨.trailingCharacters, 0⟩)

def Fields.decoder {α : Type} (name : String) (fields : Fields α) : Decoder α
  | .object members ending => do
      checkMembers fields.declared [] members
      ofFlaw ending.check
      fields.gather fun field => findDraft field members
  | .array items ending => do
      let surplus ← checkItems name fields.declared.length ending 0 fields.declared items
      checkSurplus items.length ending surplus
      let members := (fields.declared.map Field.name).zip items
      fields.gather fun field => findDraft field members
  | draft => wrongType s!"struct {name}" draft

end Resumable.Json
