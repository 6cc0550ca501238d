import Resumable.Error

/-!
The configuration a workflow author gives a task. It is read, never written; null counts as absent.
-/

namespace Resumable

structure Config where
  params : Document

namespace Config

def empty : Config := ⟨[]⟩

def ofJson : Json → Except ConfigError Config
  | .object params => .ok ⟨params⟩
  | .null => .ok empty
  | other => .error (.invalid "<root>" s!"expected an object, got {other.render}")

def decoder : Json.Decoder Config := .map Config.mk .document

def toJson (config : Config) : Json := .object config.params

def has (config : Config) (key : String) : Bool := Table.has key config.params

def raw (config : Config) (key : String) : Option Json := Table.get? key config.params

def getOptional {α : Type} (config : Config) (codec : Json.Codec α) (key : String) :
    Except ConfigError (Option α) :=
  match config.raw key with
  | none | some .null => .ok none
  | some value =>
      match codec.decode value with
      | .ok decoded => .ok (some decoded)
      | .error error => .error (.invalid key error.message)

def get {α : Type} (config : Config) (codec : Json.Codec α) (key : String) :
    Except ConfigError α := do
  match ← config.getOptional codec key with
  | some value => return value
  | none => throw (.missing key)

def getOr {α : Type} (config : Config) (codec : Json.Codec α) (key : String) (default : α) :
    Except ConfigError α := do
  return (← config.getOptional codec key).getD default

/-- The object under a key, or the empty configuration. -/
def nested (config : Config) (key : String) : Except ConfigError Config :=
  match config.raw key with
  | none | some .null => .ok empty
  | some (.object params) => .ok ⟨params⟩
  | some other => .error (.invalid key s!"expected an object, got {other.render}")

/-- A span given in whole seconds or as text. -/
def span (config : Config) (key : String) : Except ConfigError (Option Span) :=
  match config.raw key with
  | none | some .null => .ok none
  | some (.number value) =>
      match value.natural? with
      | some seconds => .ok (some (.ofSeconds seconds))
      | none => .error (.invalid key "expected non-negative seconds")
  | some (.text value) =>
      match Span.parse value with
      | .ok span => .ok (some span)
      | .error error => .error (.invalid key error.message)
  | some other => .error (.invalid key s!"expected a duration, got {other.render}")

end Config

end Resumable
