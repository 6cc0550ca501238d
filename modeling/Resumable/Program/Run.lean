import Resumable.Operator
import Resumable.Polling
import Resumable.Program.Step

/-!
Running programs. Their world counts the calls of scripts, and keeps a trace, the bindings of
variables and the configuration of the task.
-/

namespace Resumable

structure Environment where
  calls : Table Nat
  trace : List Json
  bindings : Document
  config : Config

namespace Environment

def initial (config : Config) : Environment := ⟨[], [], [], config⟩

def addTrace (environment : Environment) (value : Json) : Environment :=
  { environment with trace := environment.trace ++ [value] }

def store (environment : Environment) (name : String) (value : Json) : Environment :=
  { environment with bindings := Table.insert name value environment.bindings }

def boundValue (environment : Environment) (name : String) : Json :=
  (Table.get? name environment.bindings).getD .null

def callCount (environment : Environment) (name : String) : Nat :=
  (Table.get? name environment.calls).getD 0

def countCall (environment : Environment) (name : String) : Environment :=
  { environment with
    calls := Table.insert name (environment.callCount name + 1) environment.calls }

end Environment

/-- A value that no document can store is shown by a text in its place. -/
def Json.Held.shown : Json.Held → Json
  | .plain value => value
  | .unwritable => .text "<unencodable>"

namespace Program

/-- The value null of a step is no value. -/
def present (value : Json) : Option Json := if value.isNull then none else some value

abbrev ProgramAction (α : Type) := Action Environment α

def operandValue (operand : Operand) : ProgramAction Json := do
  match operand with
  | .constant value => return value
  | .variable name => return (← Action.world).boundValue name

def trace (value : Json) : ProgramAction Unit :=
  Action.changeWorld fun world => world.addTrace value

/-- The value of a body as one of a kind; a body that gives none of it has failed. -/
def decodeBody (kind : Json.Kind) (value : Json) : ProgramAction Json.Held :=
  match kind.codec.decode value with
  | .ok held => return held
  | .error error => Action.fail (.other (.text s!"body value: {error.message}"))

def failureText (failure : Failure) : List Char := failure.message.toList

def retryOf (settings : RetrySettings) : Retry :=
  let plain := Retry.withKey settings.key
  let message : Failure → String :=
    match settings.template, settings.message with
    | some template, _ => fun failure =>
        String.ofList (fillTemplate (failureText failure) template.toList)
    | none, some message => fun _ => message
    | none, none => plain.message
  { key := settings.key
    interval := settings.interval.getD plain.interval
    predicates := settings.rules.map RetryRule.predicate
    message := message }

def pollingOf (settings : PollSettings) : Polling :=
  let plain := Polling.withKey settings.key
  { key := settings.key
    interval := settings.interval.getD plain.interval
    base := settings.base.getD plain.base
    timeout := settings.timeout
    message := settings.message.getD plain.message
    read := match settings.reading with
      | none => plain.read
      | some reading => fun _ => reading }

def runRetry (settings : RetrySettings) (body : ProgramAction (Option Json)) :
    ProgramAction (Option Json) :=
  let retry := retryOf settings
  let typed : ProgramAction Json.Held := do decodeBody settings.kind ((← body).getD .null)
  let plain : ProgramAction Unit := do
    let _ ← body
    return ()
  match settings.mode with
  | .run => do return present (← retry.run typed).shown
  | .runOnce => do return present (← retry.runOnce settings.kind.codec typed).shown
  | .runAction => do
      retry.run plain
      return none
  | .runOnceAction => do
      retry.runOnce .unit plain
      return none

def runPoll (settings : PollSettings) (body : ProgramAction (Option Json)) :
    ProgramAction (Option Json) :=
  let polling := pollingOf settings
  let typed : ProgramAction (Option Json.Held) := do
    match ← body with
    | none => return none
    | some value => return some (← decodeBody settings.kind value)
  match settings.mode with
  | .ready => do return some (← polling.awaitReady typed).shown
  | .once => do return some (← polling.awaitOnce settings.kind.codec typed).shown

/-- What a step leaves to do: the end of the program, or the rest of it. -/
inductive Next where
  | ended (value : Option Json)
  | continues

def failureJson (error : TaskError) : Json := error.document.toJson

def handle (handling : Handling) (work : ProgramAction (Option Json)) : ProgramAction Next := do
  let value ← match ← work.outcome with
    | .ok value => pure value
    | .error error =>
        if handling.catches then do
          trace (.record [("caught", failureJson error)])
          pure none
        else Action.fail error
  match handling.store with
  | some name => Action.changeWorld fun world => world.store name (value.getD .null)
  | none => pure ()
  return if handling.returns then .ended value else .continues

mutual

def run : List Step → ProgramAction (Option Json)
  | [] => return none
  | step :: rest => do
      match ← runStep step with
      | .ended value => return value
      | .continues => run rest

def runStep : Step → ProgramAction Next
  | .finish operand => do return .ended (some (← operandValue operand))
  | .notReady => return .ended none
  | .fail error => Action.fail error
  | .suspend seconds => Action.suspend seconds
  | .trace operand => do
      trace (← operandValue operand)
      return .continues
  | .input operand => do
      Action.addInput (← operandValue operand)
      return .continues
  | .output operand => do
      Action.addOutput (← operandValue operand)
      return .continues
  | .advance span => do
      Action.advance span
      return .continues
  | .evaluate work handling => handle handling (runWork work)

def runWork : Work → ProgramAction (Option Json)
  | .set key operand => do
      Action.set .json key (← operandValue operand)
      return none
  | .setUnwritable key => do
      Action.set (Json.Kind.codec .unwritable) key .unwritable
      return none
  | .remove key => Action.remove key
  | .increment key => do
      let count ← Action.getOr .count key 0
      Action.set .count key (count + 1)
      return some (.nat (count + 1))
  | .get key kind => do return (← Action.get kind.codec key).map Json.Held.shown
  | .config key kind => do
      let held ← Action.ofConfig ((← Action.world).config.get kind.codec key)
      return some held.shown
  | .nested key body => Action.nested key (run body)
  | .script name answers => do
      Action.changeWorld fun world => world.countCall name
      let call := (← Action.world).callCount name
      trace (.text s!"{name}#{call}")
      runAnswer (call - 1) answers
  | .retry settings body => runRetry settings (run body)
  | .poll settings body => runPoll settings (run body)

/-- Runs the answer at an index, or the last one. -/
def runAnswer (index : Nat) : List (List Step) → ProgramAction (Option Json)
  | [] => return none
  | [last] => run last
  | first :: second :: rest =>
      match index with
      | 0 => run first
      | later + 1 => runAnswer later (second :: rest)

end

end Program

end Resumable
