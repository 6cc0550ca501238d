import Resumable.Json.Parse
import Resumable.Json.Written
import Resumable.Text.Quoted

/-!
Decoders take a draft to a value of some type. They look at it in reading order, so the first thing
that is wrong is the one reported, whether the text is at fault or the value in it.
-/

namespace Resumable.Json

/-- What a decoder met where it expected something else. -/
inductive Found where
  | null
  | bool (value : Bool)
  | number (value : Number)
  | text (value : String)
  | sequence
  | map

inductive Mismatch where
  | wrongType (found : Found) (expected : String)
  | outOfRange (value : Int) (expected : String)
  | missingField (field : String)
  | duplicateField (field : String)
  | tooShort (length : Nat) (name : String) (count : Nat)
  | tooLong (length : Nat)
  /-- A text that its type refuses, for a reason of its own. -/
  | refused (reason : String)

inductive ReadError where
  | mismatch (mismatch : Mismatch)
  | flaw (flaw : Flaw)

def Found.message : Found → String
  | .null => "null"
  | .bool value => s!"boolean `{value}`"
  | .number (.whole value) => s!"integer `{value}`"
  | .number (.real value) => "floating point `" ++ String.ofList (writtenReal value) ++ "`"
  | .text value => "string " ++ Text.quoted value
  | .sequence => "sequence"
  | .map => "map"

def Mismatch.message : Mismatch → String
  | .wrongType found expected => s!"invalid type: {found.message}, expected {expected}"
  | .outOfRange value expected => s!"invalid value: integer `{value}`, expected {expected}"
  | .missingField field => s!"missing field `{field}`"
  | .duplicateField field => s!"duplicate field `{field}`"
  | .tooShort length name count =>
      s!"invalid length {length}, expected struct {name} with {count} elements"
  | .tooLong length => s!"invalid length {length}, expected fewer elements in array"
  | .refused reason => reason

def ReadError.message : ReadError → String
  | .mismatch found => found.message
  | .flaw found => found.cause.message

/-- A flaw of the text counts as an error of reading. -/
def ofFlaw {α : Type} : Except Flaw α → Except ReadError α
  | .ok value => .ok value
  | .error found => .error (.flaw found)

abbrev Decoder (α : Type) := Draft → Except ReadError α

def found : Draft → Except Flaw Found
  | .null => .ok .null
  | .bool value => .ok (.bool value)
  | .number value => .ok (.number value)
  | .text value => .ok (.text value)
  | .array _ _ => .ok .sequence
  | .object _ _ => .ok .map
  | .fault wanted _ => .error wanted

def wrongType {α : Type} (expected : String) (draft : Draft) : Except ReadError α :=
  match found draft with
  | .ok met => .error (.mismatch (.wrongType met expected))
  | .error flaw => .error (.flaw flaw)

namespace Decoder

def run {α : Type} (decoder : Decoder α) (value : Json) : Except ReadError α :=
  decoder (.ofJson value)

/-- Decodes a whole text; what stands behind its value is looked at last. -/
def runText {α : Type} (decoder : Decoder α) (text : String) : Except ReadError α := do
  let reading := Reader.read text.toList
  let value ← decoder (reading.draft.limited depthLimit)
  ofFlaw (trailing reading.after)
  return value

def map {α β : Type} (change : α → β) (decoder : Decoder α) : Decoder β :=
  fun draft => (decoder draft).map change

def json : Decoder Json := fun draft => ofFlaw draft.resolve

def unit : Decoder Unit
  | .null => .ok ()
  | draft => wrongType "unit" draft

def bool : Decoder Bool
  | .bool value => .ok value
  | draft => wrongType "a boolean" draft

def text : Decoder String
  | .text value => .ok value
  | draft => wrongType "a string" draft

/-- Whole numbers from `low` to `high`. -/
def integer (name : String) (low high : Int) : Decoder Int
  | .number (.whole value) =>
      if low ≤ value ∧ value ≤ high then .ok value
      else .error (.mismatch (.outOfRange value name))
  | draft => wrongType name draft

/-- Whole numbers that fit so many bits without a sign. -/
def natural (bits : Nat) : Decoder Nat :=
  map Int.toNat (integer s!"u{bits}" 0 (Int.ofNat (1 <<< bits) - 1))

/-- Whole numbers that fit so many bits, one of them for the sign. -/
def signed (bits : Nat) : Decoder Int :=
  integer s!"i{bits}" (-Int.ofNat (1 <<< (bits - 1))) (Int.ofNat (1 <<< (bits - 1)) - 1)

def real : Decoder Binary64
  | .number (.whole value) => .ok (.ofInt value)
  | .number (.real value) => .ok (.finite value)
  | draft => wrongType "f64" draft

/-- Null stands for no value. -/
def optional {α : Type} (decoder : Decoder α) : Decoder (Option α)
  | .null => .ok none
  | draft => (decoder draft).map some

def items {α : Type} (decoder : Decoder α) : List Draft → Except ReadError (List α)
  | [] => .ok []
  | item :: rest => do
      let value ← decoder item
      let values ← items decoder rest
      return value :: values

def list {α : Type} (decoder : Decoder α) : Decoder (List α)
  | .array drafts ending => do
      let values ← items decoder drafts
      ofFlaw ending.check
      return values
  | draft => wrongType "a sequence" draft

def members {α : Type} (decoder : Decoder α) :
    List (String × Draft) → Except ReadError (List (String × α))
  | [] => .ok []
  | (key, draft) :: rest => do
      let value ← decoder draft
      let values ← members decoder rest
      return (key, value) :: values

/-- Of members with one key the last counts. -/
def table {α : Type} (decoder : Decoder α) : Decoder (Table α)
  | .object drafts ending => do
      let values ← members decoder drafts
      ofFlaw ending.check
      return Table.ofList values
  | draft => wrongType "a map" draft

def document : Decoder Document := table json

end Decoder

end Resumable.Json
