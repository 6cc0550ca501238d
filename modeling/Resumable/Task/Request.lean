import Resumable.Config

/-!
What the host hands to an invocation.
-/

namespace Resumable

structure TaskRequest where
  /-- The same for all invocations of one attempt. -/
  attemptId : String
  taskName : String
  config : Config
  /-- The document of the last suspension, empty on the first invocation. -/
  lastStateParams : Document

namespace TaskRequest

def decoder : Json.Decoder TaskRequest :=
  Json.Fields.decoder "TaskRequest" <|
    TaskRequest.mk <$> .required "attempt_id" .text <*> .required "task_name" .text <*>
      .optional "config" Config.decoder .empty <*> .optional "last_state_params" .document []

def toJson (request : TaskRequest) : Json :=
  .record
    [("attempt_id", .text request.attemptId), ("task_name", .text request.taskName),
      ("config", request.config.toJson), ("last_state_params", .object request.lastStateParams)]

def withState (request : TaskRequest) (state : Document) : TaskRequest :=
  { request with lastStateParams := state }

end TaskRequest

end Resumable
