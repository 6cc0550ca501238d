import Resumable.Json.Fields

/-!
The signal that suspends a task: stop here, keep the state, and invoke the task again after the
interval.
-/

namespace Resumable

/-- A failure as task history keeps it, causes from the outermost in. -/
structure ErrorDocument where
  message : String
  kind : String
  causes : List String

namespace ErrorDocument

def decoder : Json.Decoder ErrorDocument :=
  Json.Fields.decoder "ErrorDocument" <|
    ErrorDocument.mk <$> .required "message" .text <*> .required "kind" .text <*>
      .optional "causes" (.list .text) []

/-- Causes are left out when there are none. -/
def toJson (document : ErrorDocument) : Json :=
  .record <|
    [("message", .text document.message), ("kind", .text document.kind)] ++
      if document.causes.isEmpty then [] else [("causes", .texts document.causes)]

end ErrorDocument

structure Suspension where
  retryIntervalSeconds : Nat
  state : Document
  /-- The failure behind a retry of the whole task. -/
  cause : Option ErrorDocument

namespace Suspension

def of (seconds : Nat) (state : Document) : Suspension := ⟨seconds, state, none⟩

def decoder : Json.Decoder Suspension :=
  Json.Fields.decoder "Suspension" <|
    Suspension.mk <$> .required "retry_interval_seconds" (.natural 64) <*>
      .required "state" .document <*> .optional "cause" (.optional ErrorDocument.decoder) none

def toJson (suspension : Suspension) : Json :=
  .record <|
    [("retry_interval_seconds", .nat suspension.retryIntervalSeconds),
      ("state", .object suspension.state)] ++
      match suspension.cause with
      | none => []
      | some cause => [("cause", cause.toJson)]

end Suspension

end Resumable
