import Resumable.Host

/-!
A host that is told what to do, step by step. Delivered tasks are held until a step invokes them.
Steps that reach the store or the queue directly make no calls that could be bound to fail.
-/

namespace Resumable

inductive HostStep where
  | submit (request : TaskRequest)
  | poll (limit : Nat)
  | invoke (index : Nat) (keep : Bool)
  | drive (most : Nat)
  | advance (span : Span)
  | setClock (millis : Int)
  | outage (call : Call) (error : StoreError)
  | save (record : StateRecord)
  | load (attemptId : String)
  | delete (attemptId : String)
  | list
  /-- Replaces the state of a record, as another suspension would. -/
  | advanceRecord (attemptId : String) (state : Document) (now : Instant)
  | enqueue (request : TaskRequest) (readyAt : Instant)
  | pollAt (now : Instant) (limit : Nat)
  | markDone (lockId : String)
  | pending

inductive HostAnswer where
  | done
  | quiet
  | nothingHeld
  | lock (lockId : String)
  | tasks (tasks : List QueuedTask)
  | status (status : InvocationStatus)
  | statuses (results : List (Except StoreError InvocationStatus))
  | record (record : StateRecord)
  | names (names : List String)
  | count (count : Nat)
  | failed (error : StoreError)

structure HostSession (World : Type) where
  host : Host World
  held : List QueuedTask

namespace HostSession

variable {World : Type}

def start (millis : Int) (world : World) : HostSession World :=
  ⟨⟨[], .empty, ⟨millis⟩, [], [], world⟩, []⟩

/-- Polls and invokes single tasks until none is delivered or an invocation fails to be recorded;
the interval of a suspension passes at once. -/
def drive (operator : Operator World) :
    Nat → Host World → List (Except StoreError InvocationStatus) × Host World
  | 0, host => ([], host)
  | most + 1, host =>
      match Host.pollReady 1 host with
      | (.ok (task :: _), polled) =>
          match Host.invoke operator task polled with
          | (.ok status, after) =>
              let waited :=
                match status with
                | .scheduled _ _ interval =>
                    { after with clock := after.clock.advance (.ofSeconds interval) }
                | _ => after
              let (rest, last) := drive operator most waited
              (.ok status :: rest, last)
          | (.error error, after) => ([.error error], after)
      | (_, polled) => ([], polled)

/-- The result of an action as an answer. -/
def answer {α : Type} (session : HostSession World) (toAnswer : α → HostAnswer)
    (result : Except StoreError α × Host World) : HostAnswer × HostSession World :=
  match result with
  | (.ok value, host) => (toAnswer value, { session with host := host })
  | (.error error, host) => (.failed error, { session with host := host })

def step (operator : Operator World) (session : HostSession World) :
    HostStep → HostAnswer × HostSession World
  | .submit request => session.answer .lock (Host.submit request session.host)
  | .poll limit =>
      match Host.pollReady limit session.host with
      | (.ok tasks, host) => (.tasks tasks, ⟨host, session.held ++ tasks⟩)
      | (.error error, host) => (.failed error, { session with host := host })
  | .invoke index keep =>
      match session.held[index]? with
      | none => (.nothingHeld, session)
      | some task =>
          let held := if keep then session.held else session.held.eraseIdx index
          { session with held := held }.answer .status (Host.invoke operator task session.host)
  | .drive most =>
      let (results, host) := drive operator most session.host
      (.statuses results, { session with host := host })
  | .advance span =>
      (.quiet,
        { session with host := { session.host with clock := session.host.clock.advance span } })
  | .setClock millis =>
      (.quiet, { session with host := { session.host with clock := ⟨millis⟩ } })
  | .outage call error =>
      (.quiet,
        { session with
          host := { session.host with outages := (call, error) :: session.host.outages } })
  | .save record =>
      let store := session.host.store.save record
      (.done, { session with host := { session.host with store := store } })
  | .load attemptId =>
      match session.host.store.load attemptId with
      | .ok record => (.record record, session)
      | .error error => (.failed error, session)
  | .delete attemptId =>
      match session.host.store.delete attemptId with
      | .ok store => (.done, { session with host := { session.host with store := store } })
      | .error error => (.failed error, session)
  | .list => (.names (Table.keys session.host.store), session)
  | .advanceRecord attemptId state now =>
      match session.host.store.load attemptId with
      | .ok record =>
          let store := session.host.store.save (record.advance state now)
          (.done, { session with host := { session.host with store := store } })
      | .error error => (.failed error, session)
  | .enqueue request readyAt =>
      session.answer .lock (Host.enqueueDirectly request readyAt session.host)
  | .pollAt now limit =>
      let (queue, tasks) := session.host.queue.pollReady now limit
      (.tasks tasks, { session with host := { session.host with queue := queue } })
  | .markDone lockId =>
      match session.host.queue.markDone lockId with
      | .ok queue => (.done, { session with host := { session.host with queue := queue } })
      | .error error => (.failed error, session)
  | .pending => (.count session.host.queue.pending.length, session)

end HostSession

end Resumable
