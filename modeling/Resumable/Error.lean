import Resumable.Json.Codec
import Resumable.Span
import Resumable.Suspension

/-!
How an invocation ends other than by returning: with the signal that suspends the task, or with a
failure. Failures keep the chain of their causes.
-/

namespace Resumable

inductive StateError where
  | decode (key : String) (source : Json.ReadError)
  | encode (key : String) (source : Json.WriteError)

inductive ConfigError where
  | missing (key : String)
  | invalid (key reason : String)

mutual

inductive TaskError where
  /-- Not a failure: the task stops here and resumes later. -/
  | suspended (suspension : Suspension)
  /-- An operation was given up. -/
  | failed (message : String) (source : Failure)
  | pollingTimeout (message : String) (timeout : Span)
  | state (error : StateError)
  | config (error : ConfigError)
  | other (failure : Failure)

/-- What operations fail with. -/
inductive Failure where
  | text (message : String)
  | http (status : Nat)
  | flaky (isRetry : Bool)
  | state (error : StateError)
  | task (error : TaskError)
  | context (message : String) (inner : Failure)

end

instance : Inhabited TaskError := ⟨.config (.missing "")⟩

namespace StateError

def message : StateError → String
  | .decode key _ => s!"Failed to read state key '{key}'"
  | .encode key _ => s!"Failed to write state key '{key}'"

def causes : StateError → List String
  | .decode _ source => [source.message]
  | .encode _ source => [source.message]

end StateError

def ConfigError.message : ConfigError → String
  | .missing key => s!"Missing required config key '{key}'"
  | .invalid key reason => s!"Invalid value for config key '{key}': {reason}"

def Suspension.message (suspension : Suspension) : String :=
  s!"Task suspended, retrying in {suspension.retryIntervalSeconds}s"

mutual

def TaskError.message : TaskError → String
  | .suspended suspension => suspension.message
  | .failed message _ => message
  | .pollingTimeout message timeout => s!"{message}: polling timed out after {timeout.format}"
  | .state error => error.message
  | .config error => error.message
  | .other failure => failure.message

def Failure.message : Failure → String
  | .text message => message
  | .http status => s!"http status {status}"
  | .flaky true => "flaky failure (retryable: true)"
  | .flaky false => "flaky failure (retryable: false)"
  | .state error => error.message
  | .task error => error.message
  | .context message _ => message

end

mutual

/-- The messages of the causes, outermost first. -/
def TaskError.causes : TaskError → List String
  | .failed _ source => source.message :: source.causes
  | .state error => error.causes
  | .other failure => failure.causes
  | .suspended _ | .pollingTimeout _ _ | .config _ => []

def Failure.causes : Failure → List String
  | .state error => error.causes
  | .task error => error.causes
  | .context _ inner => inner.message :: inner.causes
  | .text _ | .http _ | .flaky _ => []

end

/-- The failure without the contexts around it. -/
def Failure.root : Failure → Failure
  | .context _ inner => inner.root
  | failure => failure

namespace TaskError

def isSuspended : TaskError → Bool
  | .suspended _ => true
  | _ => false

def kind : TaskError → String
  | .suspended _ => "suspended"
  | .failed _ _ => "failed"
  | .pollingTimeout _ _ => "polling_timeout"
  | .state _ => "state"
  | .config _ => "config"
  | .other _ => "other"

def document (error : TaskError) : ErrorDocument := ⟨error.message, error.kind, error.causes⟩

end TaskError

/-- What the host sees of an invocation that did not fail. -/
inductive Outcome (α : Type) where
  | completed (value : α)
  | suspended (suspension : Suspension)

/-- Suspensions leave the channel of errors. -/
def Outcome.ofResult {α : Type} : Except TaskError α → Except TaskError (Outcome α)
  | .ok value => .ok (.completed value)
  | .error (.suspended suspension) => .ok (.suspended suspension)
  | .error error => .error error

end Resumable
