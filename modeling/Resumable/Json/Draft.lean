import Resumable.Json.Value

/-!
JSON text as far as it could be read. A flaw stays at its place in the tree, so that a decoder which
walks the tree in reading order meets faults of the text and faults of the values in the order in
which they stand. Some flaws matter only to a decoder that wants the value: the ones that do not
keep a skipped value from being passed over are marked.
-/

namespace Resumable.Json

inductive Flaw.Cause where
  | endInArray
  | endInObject
  | endInText
  | endInValue
  | colonMissing
  | arrayCommaMissing
  | objectCommaMissing
  | literalMisspelt
  | valueMissing
  | escapeInvalid
  | numberInvalid
  | numberTooLarge
  | controlCharacter
  | keyNotText
  | surrogateAlone
  | escapeCutShort
  | trailingComma
  | trailingCharacters
  | tooDeep
  deriving DecidableEq

/-- What is wrong with a text, and how many bytes of it are left behind the offending one. -/
structure Flaw where
  cause : Flaw.Cause
  left : Nat
  deriving DecidableEq

namespace Flaw

/-- The text ends early, so that more of it could mend the flaw. -/
def Cause.isEnd : Cause → Bool
  | .endInArray | .endInObject | .endInText | .endInValue => true
  | _ => false

def Cause.message : Cause → String
  | .endInArray => "EOF while parsing a list"
  | .endInObject => "EOF while parsing an object"
  | .endInText => "EOF while parsing a string"
  | .endInValue => "EOF while parsing a value"
  | .colonMissing => "expected `:`"
  | .arrayCommaMissing => "expected `,` or `]`"
  | .objectCommaMissing => "expected `,` or `\x7d`"
  | .literalMisspelt => "expected ident"
  | .valueMissing => "expected value"
  | .escapeInvalid => "invalid escape"
  | .numberInvalid => "invalid number"
  | .numberTooLarge => "number out of range"
  | .controlCharacter => "control character (\\u0000-\\u001F) found while parsing a string"
  | .keyNotText => "key must be a string"
  | .surrogateAlone => "lone leading surrogate in hex escape"
  | .escapeCutShort => "unexpected end of hex escape"
  | .trailingComma => "trailing comma"
  | .trailingCharacters => "trailing characters"
  | .tooDeep => "recursion limit exceeded"

end Flaw

/-- How a container ends. The length of a counted array is known before its items are read. -/
inductive Ending where
  | closed
  | counted
  | broken (wanted : Flaw) (skipped : Option Flaw)

inductive Draft where
  | null
  | bool (value : Bool)
  | number (value : Number)
  | text (value : String)
  | array (items : List Draft) (ending : Ending)
  | object (members : List (String × Draft)) (ending : Ending)
  /-- No value could be read here; a decoder that skips the place meets only `skipped`. -/
  | fault (wanted : Flaw) (skipped : Option Flaw)

namespace Ending

def check : Ending → Except Flaw Unit
  | .broken wanted _ => .error wanted
  | _ => .ok ()

def skip : Ending → Except Flaw Unit
  | .broken _ (some flaw) => .error flaw
  | _ => .ok ()

end Ending

namespace Draft

mutual

def ofJson : Json → Draft
  | .null => .null
  | .bool value => .bool value
  | .number value => .number value
  | .text value => .text value
  | .array items => .array (ofItems items) .counted
  | .object members => .object (ofMembers members) .closed

def ofItems : List Json → List Draft
  | [] => []
  | item :: rest => ofJson item :: ofItems rest

def ofMembers : List (String × Json) → List (String × Draft)
  | [] => []
  | (key, value) :: rest => (key, ofJson value) :: ofMembers rest

end

mutual

/-- Passing over a value without looking at it. -/
def skip : Draft → Except Flaw Unit
  | .array items ending => do skipItems items; ending.skip
  | .object members ending => do skipMembers members; ending.skip
  | .fault _ (some flaw) => .error flaw
  | _ => .ok ()

def skipItems : List Draft → Except Flaw Unit
  | [] => .ok ()
  | item :: rest => do skip item; skipItems rest

def skipMembers : List (String × Draft) → Except Flaw Unit
  | [] => .ok ()
  | (_, value) :: rest => do skip value; skipMembers rest

end

def skipFlaw (draft : Draft) : Option Flaw :=
  match draft.skip with
  | .ok () => none
  | .error flaw => some flaw

mutual

/-- The value of a draft without flaws; of members with one key the last counts. -/
def resolve : Draft → Except Flaw Json
  | .null => .ok .null
  | .bool value => .ok (.bool value)
  | .number value => .ok (.number value)
  | .text value => .ok (.text value)
  | .array items ending => do
      let values ← resolveItems items
      ending.check
      return .array values
  | .object members ending => do
      let values ← resolveMembers members
      ending.check
      return .object (Table.ofList values)
  | .fault wanted _ => .error wanted

def resolveItems : List Draft → Except Flaw (List Json)
  | [] => .ok []
  | item :: rest => do
      let value ← resolve item
      let values ← resolveItems rest
      return value :: values

def resolveMembers : List (String × Draft) → Except Flaw (List (String × Json))
  | [] => .ok []
  | (key, draft) :: rest => do
      let value ← resolve draft
      let values ← resolveMembers rest
      return (key, value) :: values

end

mutual

/-- Containers below `levels` others are flawed for every decoder but one that skips them. -/
def limited (levels : Nat) : Draft → Draft
  | .array items ending =>
      match levels with
      | 0 => .fault ⟨.tooDeep, 0⟩ (skipFlaw (.array items ending))
      | below + 1 => .array (limitedItems below items) ending
  | .object members ending =>
      match levels with
      | 0 => .fault ⟨.tooDeep, 0⟩ (skipFlaw (.object members ending))
      | below + 1 => .object (limitedMembers below members) ending
  | draft => draft

def limitedItems (levels : Nat) : List Draft → List Draft
  | [] => []
  | item :: rest => limited levels item :: limitedItems levels rest

def limitedMembers (levels : Nat) : List (String × Draft) → List (String × Draft)
  | [] => []
  | (key, value) :: rest => (key, limited levels value) :: limitedMembers levels rest

end

end Draft

end Resumable.Json
