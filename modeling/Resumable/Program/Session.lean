import Resumable.Program.Run

/-!
A session runs a program again and again on one document, the way a host does: after a suspension
the document is the one the suspension carries.
-/

namespace Resumable

inductive RunEnd where
  | completed (value : Option Json)
  | suspended (suspension : Suspension)
  | failed (error : ErrorDocument)

structure Session where
  document : Document
  clock : Clock
  environment : Environment
  log : Log

namespace Session

def start (document : Document) (config : Config) (millis : Int) : Session :=
  ⟨document, ⟨millis⟩, .initial config, []⟩

/-- One run, begun after the span has passed. With `waits`, the interval of a suspension passes
too. -/
def step (session : Session) (program : Program) (span : Span) (waits : Bool) :
    RunEnd × Session :=
  let fresh := { session.environment with trace := [], bindings := [] }
  let (result, frame) :=
    (Program.run program).run session.document (session.clock.advance span) fresh
  let after : Session := ⟨frame.here, frame.clock, frame.world, session.log ++ frame.log⟩
  match result with
  | .ok value => (.completed value, after)
  | .error (.suspended suspension) =>
      let clock :=
        if waits then after.clock.advance (.ofSeconds suspension.retryIntervalSeconds)
        else after.clock
      (.suspended suspension, { after with document := suspension.state, clock := clock })
  | .error error => (.failed error.document, after)

end Session

/-- What an operator made of a program makes its result from. -/
structure ResultTemplate where
  subtaskConfig : Document
  exportParams : Document
  storeParams : Document
  resetStoreParams : List String
  report : TaskReport

namespace ResultTemplate

def result (template : ResultTemplate) (value : Option Json) : TaskResult :=
  let plain : TaskResult :=
    { subtaskConfig := template.subtaskConfig
      exportParams := template.exportParams
      storeParams := template.storeParams
      resetStoreParams := template.resetStoreParams
      report := template.report }
  match value with
  | some value => plain.storeParam "value" value
  | none => plain

end ResultTemplate

def Program.operator (programOf : String → Program) (template : ResultTemplate)
    (resetKeys : List String) (retryByDefault : Bool) : Operator Environment where
  run taskName config := do
    Action.changeWorld fun world => { world with bindings := [], config := config }
    return template.result (← Program.run (programOf taskName))
  resetKeys := resetKeys
  retryByDefault := retryByDefault

/-- The invocations of one task attempt, each with the state that the one before suspended with. -/
structure Attempt where
  request : TaskRequest
  clock : Clock
  environment : Environment
  log : Log

namespace Attempt

structure Step where
  outcome : Except TaskFailure (Outcome TaskResult)
  trace : List Json
  now : Int

/-- One invocation, begun after the span has passed; the interval of a suspension passes too. -/
def step (attempt : Attempt) (operator : Operator Environment) (span : Span) : Step × Attempt :=
  let fresh := { attempt.environment with trace := [] }
  let invocation := operator.invoke attempt.request (attempt.clock.advance span) fresh
  let (request, clock) :=
    match invocation.outcome with
    | .ok (.suspended suspension) =>
        (attempt.request.withState suspension.state,
          invocation.clock.advance (.ofSeconds suspension.retryIntervalSeconds))
    | _ => (attempt.request, invocation.clock)
  (⟨invocation.outcome, invocation.world.trace, clock.now.millis⟩,
    ⟨request, clock, invocation.world, attempt.log ++ invocation.log⟩)

def run (operator : Operator Environment) (span : Span) : Nat → Attempt → List Step × Attempt
  | 0, attempt => ([], attempt)
  | times + 1, attempt =>
      let (first, after) := attempt.step operator span
      match first.outcome with
      | .ok (.suspended _) =>
          let (rest, last) := run operator span times after
          (first :: rest, last)
      | _ => ([first], after)

end Attempt

end Resumable
