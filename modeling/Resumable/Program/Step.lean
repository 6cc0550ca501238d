import Resumable.Error
import Resumable.Interval
import Resumable.Json.Codec

/-!
Task code given as data: a program is a list of steps on a scope. A program ends with a value, with
the answer "not ready", or with an error.
-/

namespace Resumable

inductive Operand where
  | constant (value : Json)
  | variable (name : String)

inductive Condition where
  | always
  | never
  | contains (text : String)

inductive StateErrorKind where
  | decode
  | encode
  | any

/-- A condition on what a failure is, contexts around it aside. -/
inductive FailureClass where
  | http (low high : Nat)
  | flaky (isRetry : Bool)
  | state (kind : StateErrorKind)

inductive RetryRule where
  | whenever (condition : Condition)
  | unless (condition : Condition)
  | ifError (sort : FailureClass)
  | unlessError (sort : FailureClass)

inductive RetryMode where
  | run
  | runOnce
  | runAction
  | runOnceAction

structure RetrySettings where
  key : String
  mode : RetryMode
  interval : Option Interval
  rules : List RetryRule
  message : Option String
  /-- A message with places for the message of the failure. -/
  template : Option String
  kind : Json.Kind

inductive PollMode where
  | ready
  | once

structure PollSettings where
  key : String
  mode : PollMode
  interval : Option Interval
  base : Option Binary64
  timeout : Option Span
  message : Option String
  /-- A reading that stands for the clock, where the scope's own is not to be used. -/
  reading : Option Int
  kind : Json.Kind

structure Handling where
  catches : Bool
  store : Option String
  returns : Bool

mutual

inductive Step where
  | finish (operand : Operand)
  | notReady
  | fail (error : TaskError)
  | suspend (seconds : Nat)
  | trace (operand : Operand)
  | input (operand : Operand)
  | output (operand : Operand)
  | advance (span : Span)
  | evaluate (work : Work) (handling : Handling)

inductive Work where
  | set (key : String) (operand : Operand)
  | setUnwritable (key : String)
  | remove (key : String)
  | increment (key : String)
  | get (key : String) (kind : Json.Kind)
  | config (key : String) (kind : Json.Kind)
  | nested (key : String) (body : List Step)
  /-- Each call by name gets its own answer, calls beyond the answers the last one. -/
  | script (name : String) (answers : List (List Step))
  | retry (settings : RetrySettings) (body : List Step)
  | poll (settings : PollSettings) (body : List Step)

end

instance : Inhabited Step := ⟨.notReady⟩

abbrev Program := List Step

namespace Condition

def occursIn (text : List Char) : List Char → Bool
  | [] => text.isEmpty
  | first :: rest => text.isPrefixOf (first :: rest) || occursIn text rest

def holds (condition : Condition) (failure : Failure) : Bool :=
  match condition with
  | .always => true
  | .never => false
  | .contains text => occursIn text.toList failure.message.toList

end Condition

def FailureClass.admits (sort : FailureClass) (failure : Failure) : Bool :=
  match sort, failure.root with
  | .http low high, .http status => low ≤ status && status ≤ high
  | .flaky wanted, .flaky isRetry => wanted == isRetry
  | .state .any, .state _ => true
  | .state .decode, .state (.decode _ _) => true
  | .state .encode, .state (.encode _ _) => true
  | _, _ => false

def RetryRule.predicate (rule : RetryRule) (failure : Failure) : Bool :=
  match rule with
  | .whenever condition => condition.holds failure
  | .unless condition => !condition.holds failure
  | .ifError sort => sort.admits failure
  | .unlessError sort => !sort.admits failure

/-- Fills every empty pair of braces with the message. -/
def fillTemplate (message : List Char) : List Char → List Char
  | [] => []
  | '\x7b' :: '\x7d' :: rest => message ++ fillTemplate message rest
  | char :: rest => char :: fillTemplate message rest

end Resumable
