import Resumable.Host.Session
import Resumable.Program.Session
import Resumable.Proofs.Memo.Step
import Resumable.Proofs.Memo.Execution
import Resumable.Proofs.Memo.Run
import Resumable.Proofs.Memo.Attempt
import Resumable.Proofs.Host.Invocation
import Resumable.Proofs.Host.Ledger
import Resumable.Proofs.Host.Driven
import Resumable.Proofs.Flow.Program
import Resumable.Proofs.Flow.Suspension
import Resumable.Proofs.Flow.Raise
import Resumable.Proofs.Turn
import Resumable.Proofs.TaskRetry
import Resumable.Proofs.Host.Refinement
import Resumable.Proofs.Host.Roster
import Resumable.Proofs.Host.Phase
import Resumable.Proofs.Host.Crew
import Resumable.Proofs.Apart
import Resumable.Proofs.Isolation
import Resumable.Proofs.Series.Turns
import Resumable.Proofs.Host.Keyed
import Resumable.Proofs.Host.Refusal
import Resumable.Proofs.Host.SuspensionCount
import Resumable.Proofs.Series.Retries
import Resumable.Proofs.Series.Waits
import Resumable.Proofs.Host.Exchange
import Resumable.Proofs.Causes
import Resumable.Proofs.Flow.GivingUp
import Resumable.Proofs.Json.Built
import Resumable.Proofs.Json.Record
import Resumable.Proofs.Json.Variant
import Resumable.Proofs.Digits
import Resumable.Proofs.Time.Calendar
import Resumable.Proofs.Time.Rfc3339
import Resumable.Proofs.Wire
import Resumable.Proofs.Json.Number
import Resumable.Proofs.Json.Reading
import Resumable.Proofs.Host.Storage
import Resumable.Proofs.RetryInterval
import Resumable.Proofs.Backoff
import Resumable.Proofs.Host.Reschedule
import Resumable.Proofs.Series.Reentry
import Resumable.Proofs.Span.Cursor
import Resumable.Proofs.Span.Normal
import Resumable.Proofs.RetryOption
import Resumable.Proofs.Time.Shared
import Resumable.Proofs.Reach
