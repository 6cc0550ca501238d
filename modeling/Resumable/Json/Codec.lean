import Resumable.Json.Decoder

/-!
Values that can be stored in a document. Storing may fail, reading back may fail; a lawful codec
reads back what it stored.
-/

namespace Resumable.Json

inductive WriteError where
  | keyNotText
  deriving DecidableEq

def WriteError.message : WriteError → String
  | .keyNotText => "key must be a string"

structure Codec (α : Type) where
  encode : α → Except WriteError Json
  decode : Json → Except ReadError α

namespace Codec

def ofDecoder {α : Type} (encode : α → Json) (decoder : Decoder α) : Codec α :=
  ⟨fun value => .ok (encode value), decoder.run⟩

/-- Every value can be stored, and is read back as it was. -/
def Lawful {α : Type} (codec : Codec α) : Prop :=
  ∀ value, ∃ stored, codec.encode value = .ok stored ∧ codec.decode stored = .ok value

def json : Codec Json := ofDecoder id .json

def unit : Codec Unit := ofDecoder (fun _ => .null) .unit

def bool : Codec Bool := ofDecoder .bool .bool

def text : Codec String := ofDecoder .text .text

/-- Counters of 32 bits. -/
def count : Codec Nat := ofDecoder .nat (.natural 32)

/-- Signed numbers of 64 bits. -/
def signed : Codec Int := ofDecoder .int (.signed 64)

end Codec

/-- A value of a type chosen when the program runs. -/
inductive Held where
  | plain (value : Json)
  /-- A value that no document can store. -/
  | unwritable

/-- The types a value can be asked for. -/
inductive Kind where
  | natural (bits : Nat)
  | signed (bits : Nat)
  | real
  | bool
  | text
  | unit
  | any
  | optional (kind : Kind)
  | list (kind : Kind)
  | table (kind : Kind)
  | unwritable
  deriving DecidableEq

/-- Values held together can be stored if each of them can. -/
def Held.all : List Held → Option (List Json)
  | [] => some []
  | .plain value :: rest => (all rest).map (value :: ·)
  | .unwritable :: _ => none

def Held.ofItems (items : List Held) : Held :=
  match Held.all items with
  | some values => .plain (.array values)
  | none => .unwritable

def Held.ofMembers (members : Table Held) : Held :=
  match Held.all (members.map Prod.snd) with
  | some values => .plain (.object ((Table.keys members).zip values))
  | none => .unwritable

namespace Kind

def decoder : Kind → Decoder Held
  | .natural bits => .map (fun value => .plain (.nat value)) (.natural bits)
  | .signed bits => .map (fun value => .plain (.int value)) (.signed bits)
  | .real => .map (fun value => .plain (.ofBinary64 value)) .real
  | .bool => .map (fun value => .plain (.bool value)) .bool
  | .text => .map (fun value => .plain (.text value)) .text
  | .unit => .map (fun _ => .plain .null) .unit
  | .any => .map .plain .json
  | .optional kind => .map (fun value => value.getD (.plain .null)) (.optional kind.decoder)
  | .list kind => .map Held.ofItems (.list kind.decoder)
  | .table kind => .map Held.ofMembers (.table kind.decoder)
  | .unwritable => fun draft => (ofFlaw draft.skip).map fun _ => .unwritable

def encode : Held → Except WriteError Json
  | .plain value => .ok value
  | .unwritable => .error .keyNotText

def codec (kind : Kind) : Codec Held := ⟨encode, kind.decoder.run⟩

end Kind

end Resumable.Json
