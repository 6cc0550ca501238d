import Resumable.Task.Request
import Resumable.Time.Rfc3339

/-!
What the host keeps of one task attempt between its invocations.
-/

namespace Resumable

def Json.Decoder.instant : Json.Decoder Instant
  | .text value =>
      match Time.parse value with
      | .ok instant => .ok instant
      | .error error => .error (.mismatch (.refused error.message))
  | draft => Json.wrongType "an RFC 3339 formatted date and time string" draft

structure StateRecord where
  attemptId : String
  state : Document
  /-- Read as a count of 64 bits. `advance` adds to it without a bound; in 64 bits it would overflow
  at `2 ^ 64`. -/
  suspensions : Nat
  updatedAt : Instant

namespace StateRecord

def first (attemptId : String) (state : Document) (now : Instant) : StateRecord :=
  ⟨attemptId, state, 0, now⟩

def advance (record : StateRecord) (state : Document) (now : Instant) : StateRecord :=
  { record with state := state, suspensions := record.suspensions + 1, updatedAt := now }

/-- The record of a suspension, given the one before, if there was one. -/
def following (attemptId : String) (state : Document) (now : Instant) :
    Option StateRecord → StateRecord
  | some record => record.advance state now
  | none => .first attemptId state now

theorem attemptId_following {attemptId : String} {found : Option StateRecord}
    (named : ∀ record, found = some record → record.attemptId = attemptId) (state : Document)
    (now : Instant) : (following attemptId state now found).attemptId = attemptId := by
  cases found with
  | none => rfl
  | some record => exact named record rfl

def decoder : Json.Decoder StateRecord :=
  Json.Fields.decoder "StateRecord" <|
    StateRecord.mk <$> .required "attempt_id" .text <*> .required "state" .document <*>
      .optional "suspensions" (.natural 64) 0 <*> .required "updated_at" .instant

/-- The members stand in the order of the fields, which is also that of their names. -/
def toJson (record : StateRecord) : Json :=
  .object
    [("attempt_id", .text record.attemptId), ("state", .object record.state),
      ("suspensions", .nat record.suspensions), ("updated_at", .text record.updatedAt.text)]

def toText (record : StateRecord) : String := record.toJson.render

def ofText (text : String) : Except Json.ReadError StateRecord := decoder.runText text

end StateRecord

/-- The request with the document of the record, if there is one. -/
def TaskRequest.resuming (request : TaskRequest) : Option StateRecord → TaskRequest
  | some record => request.withState record.state
  | none => request

theorem TaskRequest.attemptId_resuming (request : TaskRequest) (found : Option StateRecord) :
    (request.resuming found).attemptId = request.attemptId := by
  cases found <;> rfl

end Resumable
