import Resumable.Proofs.Except
import Resumable.RetryPolicy

/-!
What a retry policy is read from. The option alone settles the limit, the interval and their kind;
the document that the failed invocation was given adds the count, and is kept.
-/

namespace Resumable.RetryPolicy

/-- The policies there are, one case for each form of the option. -/
inductive Prepared (config : Config) (state : Document) (enabledByDefault : Bool) :
    RetryPolicy → Prop where
  | absent (absent : config.raw configKey = none ∨ config.raw configKey = some .null) :
      Prepared config state enabledByDefault
        ⟨if enabledByDefault then defaultLimit else 0, countIn state, 0, none, .constant, state⟩
  | bare {value : Json} {limit : Nat} (given : config.raw configKey = some value)
      (form : (∃ number, value = .number number) ∨ ∃ text, value = .text text)
      (limited : parseLimit configKey value = .ok limit) :
      Prepared config state enabledByDefault ⟨limit, countIn state, 0, none, .constant, state⟩
  | written {params : Document} {value : Json} {limit : Nat} {interval longest : Option Span}
      {type : IntervalType} (given : config.raw configKey = some (.object params))
      (found : Config.raw ⟨params⟩ "limit" = some value)
      (limited : parseLimit "_retry.limit" value = .ok limit)
      (waits : Config.span ⟨params⟩ "interval" = .ok interval)
      (capped : Config.span ⟨params⟩ "max_interval" = .ok longest)
      (typed : typeIn ⟨params⟩ = .ok type) :
      Prepared config state enabledByDefault
        ⟨limit, countIn state, (interval.map Span.seconds).getD 0, longest.map Span.seconds, type,
          state⟩

theorem prepared {config : Config} {state : Document} {enabledByDefault : Bool}
    {policy : RetryPolicy} (ready : prepare config state enabledByDefault = .ok policy) :
    Prepared config state enabledByDefault policy := by
  unfold prepare at ready
  cases option : config.raw configKey with
  | none =>
      rw [option] at ready
      cases ready
      exact .absent (.inl option)
  | some value =>
      rw [option] at ready
      cases value with
      | null =>
          cases ready
          exact .absent (.inr option)
      | number number =>
          obtain ⟨limit, limited, rest⟩ := of_bind ready
          cases rest
          exact .bare option (.inl ⟨number, rfl⟩) limited
      | text text =>
          obtain ⟨limit, limited, rest⟩ := of_bind ready
          cases rest
          exact .bare option (.inr ⟨text, rfl⟩) limited
      | object params =>
          dsimp only at ready
          cases found : Config.raw ⟨params⟩ "limit" with
          | none =>
              rw [found] at ready
              cases ready
          | some value =>
              rw [found] at ready
              obtain ⟨limit, limited, rest⟩ := of_bind ready
              obtain ⟨interval, waits, rest⟩ := of_bind rest
              obtain ⟨longest, capped, rest⟩ := of_bind rest
              obtain ⟨type, typed, rest⟩ := of_bind rest
              cases rest
              exact .written option found limited waits capped typed
      | _ => cases ready

theorem prepare_of_prepared {config : Config} {state : Document} {enabledByDefault : Bool}
    {policy : RetryPolicy} (prepared : Prepared config state enabledByDefault policy) :
    prepare config state enabledByDefault = .ok policy := by
  cases prepared with
  | absent absent =>
      rcases absent with option | option <;>
      · rw [prepare, option]
        rfl
  | bare given form limited =>
      rcases form with ⟨number, rfl⟩ | ⟨text, rfl⟩ <;>
      · rw [prepare, given]
        simp only [limited]
        rfl
  | written given found limited waits capped typed =>
      rw [prepare, given]
      simp only [found, limited, waits, capped, typed]
      rfl

theorem prepare_state {config : Config} {state : Document} {enabledByDefault : Bool}
    {policy : RetryPolicy} (ready : prepare config state enabledByDefault = .ok policy) :
    policy.state = state := by
  cases prepared ready <;> rfl

/-- The policy as it is for another document. -/
def recount (policy : RetryPolicy) (state : Document) : RetryPolicy :=
  { policy with count := countIn state, state := state }

-- The option is read alike whatever the document.
theorem prepare_recount {config : Config} {state : Document} {enabledByDefault : Bool}
    {policy : RetryPolicy} (ready : prepare config state enabledByDefault = .ok policy)
    (other : Document) :
    prepare config other enabledByDefault = .ok (policy.recount other) := by
  apply prepare_of_prepared
  cases prepared ready with
  | absent absent => exact .absent absent
  | bare given form limited => exact .bare given form limited
  | written given found limited waits capped typed =>
      exact .written given found limited waits capped typed

theorem parseCount_le {text : String} {count : Nat} (parsed : parseCount text = some count) :
    count ≤ maxLimit := by
  simp only [parseCount, Option.ite_none_left_eq_some, Option.some.injEq] at parsed
  obtain ⟨fits, rfl⟩ := parsed
  simp only [Bool.or_eq_true, decide_eq_true_eq, not_or, Nat.not_lt] at fits
  exact fits.2

theorem parseLimit_le {key : String} {value : Json} {limit : Nat}
    (limited : parseLimit key value = .ok limit) : limit ≤ maxLimit := by
  cases value with
  | number number =>
      simp only [parseLimit] at limited
      split at limited
      · split at limited
        · cases limited
          assumption
        · cases limited
      · cases limited
  | text text =>
      cases parsed : parseCount text with
      | none => simp [parseLimit, parsed] at limited
      | some count =>
          simp only [parseLimit, parsed, Except.ok.injEq] at limited
          rw [← limited]
          exact parseCount_le parsed
  | _ => cases limited

theorem limit_le {config : Config} {state : Document} {enabledByDefault : Bool}
    {policy : RetryPolicy} (ready : prepare config state enabledByDefault = .ok policy) :
    policy.limit ≤ maxLimit := by
  cases prepared ready with
  | absent _ =>
      have small : (if enabledByDefault then defaultLimit else 0) ≤ maxLimit := by
        cases enabledByDefault <;> decide
      exact small
  | bare _ _ limited => exact parseLimit_le limited
  | written _ _ limited _ _ _ => exact parseLimit_le limited

theorem countIn_eq_zero {state : Document} (absent : Table.get? countKey state = none) :
    countIn state = 0 := by
  rw [countIn, absent]
  rfl

theorem countIn_eq {state : Document} {count : Nat}
    (found : Table.get? countKey state = some (.nat count)) :
    countIn state = min count maxLimit := by
  rw [countIn, found]
  rfl

end Resumable.RetryPolicy
