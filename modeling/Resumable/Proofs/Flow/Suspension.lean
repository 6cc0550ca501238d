import Resumable.Proofs.Flow.Raise

/-!
Suspensions pass through the layers of a program unchanged. Whatever the program, a suspension that
it ends with was made by one retry or wait, carries the whole document as the program leaves it, and
has left the layers around as they were entered, apart from what their operations did in their own
scopes.
-/

namespace Resumable

variable {World α β : Type}

namespace Layer.Undisturbed

theorem retry {path : List String} {entered inner : Document} :
    Undisturbed ⟨.retry, path, entered⟩ (entered.setChild "operation" inner) where
  kept _ own _ := Document.get?_setChild_of_ne own entered inner
  started wait := by cases wait

theorem wait {path : List String} {now start : Int} {frame opened : Frame World} {inner : Document}
    (started : Polling.Started now frame start opened) :
    Undisturbed ⟨.wait, path, frame.here⟩ (opened.here.setChild "operation" inner) := by
  cases started with
  | earlier read =>
      constructor
      · intro key own _
        exact Document.get?_setChild_of_ne own frame.here inner
      · intro _
        exact .inl (Document.get?_setChild_of_ne (by decide) frame.here inner)
  | now absent =>
      constructor
      · intro key own other
        rw [Document.get?_setChild_of_ne own, Table.get?_insert_of_ne (other rfl)]
      · intro _
        refine .inr ⟨absent, ?_⟩
        rw [Table.has, Document.get?_setChild_of_ne (by decide), Table.get?_insert_self]
        rfl

end Layer.Undisturbed

/-- A suspension is as its raise tells, and the layers around have kept what is theirs. -/
structure Explains (raise : Raise) (suspension : Suspension) (left : Document) : Prop where
  cause : suspension.cause = none
  interval : suspension.retryIntervalSeconds = raise.backoff
  counted : raise.raiser.entered.getOr .count raise.raiser.kind.counter 0 = .ok raise.count
  undisturbed : ∀ layer ∈ raise.enclosing, layer.Undisturbed (left.within layer.path)

namespace Explains

variable {raise : Raise} {suspension : Suspension} {left : Document}

theorem under (explains : Explains raise suspension left) (key : String) (outer : Document) :
    Explains (raise.under key) suspension (outer.setChild key left) where
  cause := explains.cause
  interval := explains.interval
  counted := explains.counted
  undisturbed := by
    intro layer member
    obtain ⟨inner, within, rfl⟩ := List.mem_map.mp member
    have kept := explains.undisturbed inner within
    rw [Layer.under, Document.within_cons, Document.child_setChild]
    exact ⟨kept.kept, kept.started⟩

theorem through (explains : Explains raise suspension left) {kind : Layer.Kind} {key : String}
    {entered scope : Document} (outer : Document)
    (around : Layer.Undisturbed ⟨kind, [key], entered⟩ (scope.setChild "operation" left)) :
    Explains (raise.through kind key entered) suspension
      (outer.setChild key (scope.setChild "operation" left)) where
  cause := explains.cause
  interval := explains.interval
  counted := explains.counted
  undisturbed := by
    intro layer member
    rcases List.mem_cons.mp member with rfl | further
    · rw [Document.within_cons, Document.child_setChild, Document.within_nil]
      exact around
    · have inner := ((explains.under "operation" scope).under key outer).undisturbed layer
      apply inner
      simpa [Raise.under] using further

end Explains

def Flow.Explained (flow : Flow World α) : Prop :=
  ∀ place frame suspension after,
    flow.action place frame = (.error (.suspended suspension), after) →
      ∃ raise, Raises flow place frame raise ∧ Explains raise suspension after.here

namespace Flow

theorem explained_bind {first : Flow World α} {next : α → Flow World β}
    (before : first.Explained) (later : ∀ value, (next value).Explained) :
    (Flow.bind first next).Explained := by
  intro place frame suspension after ended
  simp only [action, Action.bind] at ended
  cases ran : first.action place frame with
  | mk result middle =>
      cases result with
      | ok value =>
          obtain ⟨raise, raises, explains⟩ :=
            later value place middle suspension after (by simpa only [ran] using ended)
          exact ⟨raise, .next ran raises, explains⟩
      | error error =>
          simp only [ran, Prod.mk.injEq, Except.error.injEq] at ended
          obtain ⟨rfl, rfl⟩ := ended
          obtain ⟨raise, raises, explains⟩ := before place frame suspension middle ran
          exact ⟨raise, .first raises, explains⟩

theorem explained_nested {body : Flow World α} (inner : body.Explained) (key : String) :
    (Flow.nested key body).Explained := by
  intro place frame suspension after ended
  obtain ⟨within, ran, rfl⟩ := Action.of_nested ended
  obtain ⟨raise, raises, explains⟩ :=
    inner (place.within key frame.here) (frame.enter key) suspension within ran
  exact ⟨raise.under key, .nested raises, explains.under key frame.here⟩

theorem explained_run (retry : Retry) {operation : Flow World α} (inner : operation.Explained) :
    (Flow.run retry operation).Explained := by
  intro place frame suspension after ended
  rw [action, Retry.run] at ended
  obtain ⟨within, tried, rfl⟩ := Action.of_nested ended
  cases Retry.attempted tried with
  | passed ran _ =>
      obtain ⟨deeper, stopped, rfl⟩ := Action.of_nested ran
      obtain ⟨raise, raises, explains⟩ := inner _ _ suspension deeper stopped
      exact ⟨_, .insideRetry raises, explains.through frame.here .retry⟩
  | retried ran found admitted read =>
      refine ⟨_, .retries ran found admitted read, ?_⟩
      constructor
      · rfl
      · rfl
      · -- The count is read after the operation has run, which cannot reach it.
        obtain ⟨deeper, _, rfl⟩ := Action.of_nested ran
        have own : "retry" ≠ "operation" := by decide
        rw [← read]
        exact Document.getOr_congr (Document.get?_setChild_of_ne own _ _).symm 0
      · intro layer member
        cases member

theorem explained_runOnce (retry : Retry) (codec : Json.Codec α) {operation : Flow World α}
    (inner : (Flow.run retry operation).Explained) :
    (Flow.runOnce retry codec operation).Explained := by
  intro place frame suspension after ended
  rw [action, Retry.runOnce] at ended
  obtain ⟨within, reached, rfl⟩ := Action.of_nested ended
  obtain ⟨undone, tried⟩ := Retry.once_suspended reached
  have ran : (Flow.run retry operation).action place frame = (.error (.suspended suspension),
      { within with here := frame.here.setChild retry.key within.here }) := by
    rw [action, Retry.run]
    exact Action.nested_eq tried
  obtain ⟨raise, raises, explains⟩ := inner place frame suspension _ ran
  exact ⟨raise, .once undone raises, explains⟩

theorem explained_awaitReady (polling : Polling) {operation : Flow World (Option α)}
    (inner : operation.Explained) : (Flow.awaitReady polling operation).Explained := by
  intro place frame suspension after ended
  rw [action, Polling.awaitReady] at ended
  obtain ⟨within, checked, rfl⟩ := Action.of_nested ended
  cases Polling.checked checked with
  | passed started inTime ran =>
      obtain ⟨deeper, stopped, rfl⟩ := Action.of_nested ran
      obtain ⟨raise, raises, explains⟩ := inner _ _ suspension deeper stopped
      exact ⟨_, .insideWait started inTime raises, explains.through frame.here (.wait started)⟩
  | @waits _ _ opened _ started inTime ran read =>
      refine ⟨_, .waits started inTime ran read, ?_⟩
      constructor
      · rfl
      · rfl
      · -- Neither noting the time of the first check nor the operation reaches the count.
        obtain ⟨deeper, _, rfl⟩ := Action.of_nested ran
        have around : Layer.Undisturbed ⟨.wait, [polling.key], frame.here.child polling.key⟩
            (opened.here.setChild "operation" deeper.here) := .wait started
        rw [← read]
        apply Document.getOr_congr
        exact (around.kept "iteration" (by decide) fun _ => by decide).symm
      · intro layer member
        cases member

theorem explained_awaitOnce (polling : Polling) (codec : Json.Codec α)
    {operation : Flow World (Option α)} (inner : (Flow.awaitReady polling operation).Explained) :
    (Flow.awaitOnce polling codec operation).Explained := by
  intro place frame suspension after ended
  rw [action, Polling.awaitOnce] at ended
  obtain ⟨within, reached, rfl⟩ := Action.of_nested ended
  obtain ⟨unseen, checked⟩ := Polling.once_suspended reached
  have ran : (Flow.awaitReady polling operation).action place frame =
      (.error (.suspended suspension),
        { within with here := frame.here.setChild polling.key within.here }) := by
    rw [action, Polling.awaitReady]
    exact Action.nested_eq checked
  obtain ⟨raise, raises, explains⟩ := inner place frame suspension _ ran
  exact ⟨raise, .awaited unseen raises, explains⟩

theorem explained (flow : Flow World α) : flow.Explained := by
  induction flow with
  | basic action quiet =>
      intro place frame suspension after ended
      exact absurd ended (quiet place frame suspension after)
  | bind first next before later => exact explained_bind before later
  | nested key body ih => exact explained_nested ih key
  | run retry operation ih => exact explained_run retry ih
  -- What runs or awaits once stops as the plain retry or wait of the same operation does.
  | runOnce retry codec operation ih => exact explained_runOnce retry codec (explained_run retry ih)
  | awaitReady polling operation ih => exact explained_awaitReady polling ih
  | awaitOnce polling codec operation ih =>
      exact explained_awaitOnce polling codec (explained_awaitReady polling ih)

end Flow

/-- However retries and waits are nested, a suspension carries the document that the program leaves
and no cause. It comes from one retry or wait, with the interval of that one's count, and the layers
around have kept their own members as they were entered. -/
theorem suspension_passes_layers_unchanged (flow : Flow World α) (document : Document)
    (clock : Clock) (world : World) {suspension : Suspension} {after : Frame World}
    (ended : flow.action.run document clock world = (.error (.suspended suspension), after)) :
    suspension.state = after.here ∧ suspension.cause = none ∧
      ∃ raise, Raises flow .top ⟨document, .empty, [], clock, world⟩ raise ∧
        (∀ other, Raises flow .top ⟨document, .empty, [], clock, world⟩ other → other = raise) ∧
        raise.raiser.entered.getOr .count raise.raiser.kind.counter 0 = .ok raise.count ∧
        suspension.retryIntervalSeconds = raise.interval.backoff raise.count raise.base ∧
        ∀ layer ∈ raise.enclosing, layer.Undisturbed (after.here.within layer.path) := by
  obtain ⟨raise, raises, explains⟩ := flow.explained _ _ suspension after ended
  refine ⟨flow.snapshots _ _ suspension after ended, explains.cause, raise, raises, ?_,
    explains.counted, explains.interval, explains.undisturbed⟩
  intro other again
  exact raises.unique again

/-- Waits for an answer that is fetched with retries, from a server that is always busy. -/
def busyFetch : Flow Unit Bool :=
  .awaitReady (.withKey "answer") (.run (.withKey "fetch")
    (.basic (Action.fail (.other (.text "busy"))) (Action.quiet_fail rfl)))

/-- Two answers were "not ready", and the fetch has failed three times since. -/
def fetchScope : Document :=
  [("iteration", .nat 2), ("operation", .object [("fetch", .object [("retry", .nat 3)])])]

def fetchDocument : Document := [("answer", .object fetchScope)]

def fetchRaise : Raise where
  enclosing := [⟨.wait, ["answer"], fetchScope⟩]
  raiser := ⟨.retry, ["answer", "operation", "fetch"], [("retry", .nat 3)]⟩
  count := 3
  interval := Retry.defaultInterval
  base := Retry.base

theorem busyFetch_raises :
    Raises busyFetch .top ⟨fetchDocument, .empty, [], ⟨0⟩, ()⟩ fetchRaise := by
  have inTime : ∀ timeout, ¬ (Polling.withKey "answer").Overdue 0 0 timeout := by
    intro timeout overdue
    cases overdue.1
  exact .insideWait (.now rfl) inTime (.retries rfl rfl rfl rfl)

/-- The fetch fails for the fourth time, which the wait around does not count as its own. -/
theorem fetch_retry_keeps_iteration :
    ∃ suspension after,
      busyFetch.action.run fetchDocument ⟨0⟩ () = (.error (.suspended suspension), after) ∧
        suspension.state = after.here ∧ suspension.cause = none ∧
        suspension.retryIntervalSeconds = 8 ∧
        Table.get? "iteration" (after.here.child "answer") = some (.nat 2) := by
  obtain ⟨suspension, after, ended⟩ := busyFetch_raises.suspends
  obtain ⟨state, cause, raise, _, unique, _, interval, around⟩ :=
    suspension_passes_layers_unchanged busyFetch fetchDocument ⟨0⟩ () ended
  obtain rfl := unique fetchRaise busyFetch_raises
  have seconds : Retry.defaultInterval.backoff 3 Retry.base = 8 := by decide +kernel
  have kept := around ⟨.wait, ["answer"], fetchScope⟩ (List.mem_singleton.mpr rfl)
  refine ⟨suspension, after, ended, state, cause, interval.trans seconds, ?_⟩
  exact kept.kept "iteration" (by decide) fun _ => by decide

end Resumable
