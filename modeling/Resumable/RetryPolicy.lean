import Resumable.Config

/-!
Retry of whole tasks, as the workflow author asks for it under `_retry`: a limit alone, as a number
or text, or an object with a limit and an interval.
-/

namespace Resumable

inductive IntervalType where
  | constant
  | exponential
  deriving DecidableEq

namespace IntervalType

def name : IntervalType → String
  | .constant => "constant"
  | .exponential => "exponential"

/-- The name of a type, blanks around it and letter case aside. -/
def parse (text : String) : Except ConfigError IntervalType :=
  let word := String.ofList ((Text.trim text.toList).map Char.toLower)
  if word = "constant" then .ok .constant
  else if word = "exponential" then .ok .exponential
  else
    .error (.invalid "_retry.interval_type"
      s!"expected 'constant' or 'exponential', got '{text}'")

end IntervalType

structure RetryPolicy where
  limit : Nat
  count : Nat
  interval : Nat
  maxInterval : Option Nat
  intervalType : IntervalType
  /-- The document that the failed invocation was given. -/
  state : Document

namespace RetryPolicy

def configKey : String := "_retry"

def countKey : String := "retry_count"

def defaultLimit : Nat := 3

def maxLimit : Nat := 1 <<< 32 - 1

def unsigned : List Char → List Char
  | '+' :: rest => rest
  | plain => plain

def parseCount (text : String) : Option Nat :=
  let digits := unsigned (Text.trim text.toList)
  let value := Text.natOfDigits digits
  if digits.isEmpty || !digits.all Char.isDigit || maxLimit < value then none else some value

def parseLimit (key : String) (value : Json) : Except ConfigError Nat :=
  match value with
  | .number number =>
      match number.natural? with
      | some limit =>
          if limit ≤ maxLimit then .ok limit
          else .error (.invalid key s!"expected a retry count, got {value.render}")
      | none => .error (.invalid key s!"expected a retry count, got {value.render}")
  | .text text =>
      match parseCount text with
      | some limit => .ok limit
      | none => .error (.invalid key s!"expected a retry count, got '{text}'")
  | other => .error (.invalid key s!"expected a retry count, got {other.render}")

/-- Retries counted in a document; what is no count is none. -/
def countIn (state : Document) : Nat :=
  match (Table.get? countKey state).bind Json.natural? with
  | some count => min count maxLimit
  | none => 0

def typeIn (retry : Config) : Except ConfigError IntervalType := do
  match ← retry.getOptional .text "interval_type" with
  | some text => IntervalType.parse text
  | none => pure .constant

def prepare (config : Config) (state : Document) (enabledByDefault : Bool) :
    Except ConfigError RetryPolicy := do
  let plain : RetryPolicy :=
    { limit := if enabledByDefault then defaultLimit else 0
      count := countIn state
      interval := 0
      maxInterval := none
      intervalType := .constant
      state := state }
  match config.raw configKey with
  | none | some .null => return plain
  | some (.number value) =>
      return { plain with limit := ← parseLimit configKey (.number value) }
  | some (.text value) =>
      return { plain with limit := ← parseLimit configKey (.text value) }
  | some (.object params) =>
      let retry : Config := ⟨params⟩
      let limit ← match retry.raw "limit" with
        | some value => parseLimit "_retry.limit" value
        | none => throw (.missing "_retry.limit")
      let interval ← retry.span "interval"
      let maxInterval ← retry.span "max_interval"
      let intervalType ← typeIn retry
      return { plain with
        limit
        interval := (interval.map Span.seconds).getD 0
        maxInterval := maxInterval.map Span.seconds
        intervalType }
  | some other =>
      throw (.invalid configKey s!"expected a number or an object, got {other.render}")

def admits (policy : RetryPolicy) : Bool := policy.count < policy.limit

/-- An exponential interval doubles with each retry, saturating at 64 bits. -/
def grown (policy : RetryPolicy) : Nat :=
  -- A factor that leaves 64 bits saturates on its own, whatever the interval.
  if policy.count < 64 then min (policy.interval <<< policy.count) Span.maxSeconds
  else Span.maxSeconds

/-- The maximum applies to an exponential interval alone. -/
def nextInterval (policy : RetryPolicy) : Nat :=
  match policy.intervalType with
  | .constant => policy.interval
  | .exponential =>
      match policy.maxInterval with
      | some limit => min policy.grown limit
      | none => policy.grown

/-- The document to resume with, one retry further. -/
def nextState (policy : RetryPolicy) : Document :=
  Table.insert countKey (.nat (min (policy.count + 1) maxLimit)) policy.state

/-- The policies of so many failures in a row, each on the document that the one before resumes
with. An option that cannot be read ends them. -/
def rounds (config : Config) (enabledByDefault : Bool) :
    Nat → Document → List (Except ConfigError RetryPolicy)
  | 0, _ => []
  | count + 1, state =>
      match prepare config state enabledByDefault with
      | .error error => [.error error]
      | .ok policy => .ok policy :: rounds config enabledByDefault count policy.nextState

end RetryPolicy

end Resumable
