import Mathlib.Algebra.Order.Ring.Nat
import Resumable.Proofs.RetryPolicy

/-!
The interval before the next retry of a whole task. An exponential interval is doubled once for each
retry so far; as a natural number that is exact, and cutting it to 64 bits and to the maximum gives
the interval. One case is apart: doubled 64 times, an interval of zero counts as too large as well.
-/

namespace Resumable.RetryPolicy

/-- Cut to the maximum, if there is one. -/
def capped (policy : RetryPolicy) (seconds : Nat) : Nat :=
  match policy.maxInterval with
  | some longest => min seconds longest
  | none => seconds

/-- The interval times two to the number of retries, cut to 64 bits and to the maximum. -/
def doubled (policy : RetryPolicy) : Nat :=
  policy.capped (min (policy.interval * 2 ^ policy.count) Span.maxSeconds)

theorem capped_le {policy : RetryPolicy} {longest : Nat}
    (limited : policy.maxInterval = some longest) (seconds : Nat) :
    policy.capped seconds ≤ longest := by
  rw [capped, limited]
  exact Nat.min_le_right seconds longest

theorem capped_mono {policy other : RetryPolicy} (same : policy.maxInterval = other.maxInterval)
    {first second : Nat} (below : first ≤ second) : policy.capped first ≤ other.capped second := by
  rw [capped, capped, same]
  cases other.maxInterval with
  | none => exact below
  | some longest => exact min_le_min_right longest below

theorem capped_zero (policy : RetryPolicy) : policy.capped 0 = 0 := by
  rw [capped]
  cases policy.maxInterval with
  | none => rfl
  | some longest => exact Nat.zero_min longest

theorem nextInterval_exponential {policy : RetryPolicy}
    (exponential : policy.intervalType = .exponential) :
    policy.nextInterval = policy.capped policy.grown := by
  rw [nextInterval, exponential]
  rfl

theorem grown_of_lt {policy : RetryPolicy} (few : policy.count < 64) :
    policy.grown = min (policy.interval * 2 ^ policy.count) Span.maxSeconds := by
  rw [grown, if_pos few, Nat.shiftLeft_eq]

theorem grown_of_ge {policy : RetryPolicy} (many : 64 ≤ policy.count) :
    policy.grown = Span.maxSeconds := if_neg (Nat.not_lt.mpr many)

-- From 64 doublings on, any interval but zero is beyond 64 bits.
theorem maxSeconds_le_doubled {interval count : Nat} (positive : interval ≠ 0)
    (many : 64 ≤ count) : Span.maxSeconds ≤ interval * 2 ^ count := by
  calc
    Span.maxSeconds ≤ 2 ^ 64 := by decide
    _ ≤ 2 ^ count := Nat.pow_le_pow_right (by decide) many
    _ ≤ interval * 2 ^ count := Nat.le_mul_of_pos_left _ (Nat.pos_of_ne_zero positive)

theorem grown_eq {policy : RetryPolicy} (plain : policy.interval ≠ 0 ∨ policy.count < 64) :
    policy.grown = min (policy.interval * 2 ^ policy.count) Span.maxSeconds := by
  rcases Nat.lt_or_ge policy.count 64 with few | many
  · exact grown_of_lt few
  · have positive := plain.resolve_right (Nat.not_lt.mpr many)
    rw [grown_of_ge many, Nat.min_eq_right (maxSeconds_le_doubled positive many)]

theorem grown_le (policy : RetryPolicy) : policy.grown ≤ Span.maxSeconds := by
  rcases Nat.lt_or_ge policy.count 64 with few | many
  · rw [grown_of_lt few]
    exact Nat.min_le_right ..
  · exact Nat.le_of_eq (grown_of_ge many)

theorem grown_mono {policy later : RetryPolicy} (same : policy.interval = later.interval)
    (more : policy.count ≤ later.count) : policy.grown ≤ later.grown := by
  rcases Nat.lt_or_ge later.count 64 with few | many
  · rw [grown_of_lt few, grown_of_lt (Nat.lt_of_le_of_lt more few), same]
    apply min_le_min_right
    exact Nat.mul_le_mul_left later.interval (Nat.pow_le_pow_right (by decide) more)
  · rw [grown_of_ge many]
    exact grown_le policy

/-- An exponential interval is the exact one, unless it is zero and has been doubled 64 times. It is
never above the maximum, and with more retries it does not get shorter. -/
theorem exponential_interval_doubles {config : Config} {state : Document} {enabledByDefault : Bool}
    {policy : RetryPolicy} (ready : prepare config state enabledByDefault = .ok policy)
    (exponential : policy.intervalType = .exponential) :
    (policy.interval ≠ 0 ∨ policy.count < 64 → policy.nextInterval = policy.doubled) ∧
      (policy.interval = 0 → policy.count < 64 → policy.nextInterval = 0) ∧
      (policy.interval = 0 → 64 ≤ policy.count →
        policy.nextInterval = policy.capped Span.maxSeconds) ∧
      (∀ longest, policy.maxInterval = some longest → policy.nextInterval ≤ longest) ∧
      ∀ other later, prepare config other enabledByDefault = .ok later →
        policy.count ≤ later.count → policy.nextInterval ≤ later.nextInterval := by
  have next := nextInterval_exponential exponential
  refine ⟨?_, ?_, ?_, ?_, ?_⟩
  · intro plain
    rw [next, grown_eq plain, doubled]
  · intro zero few
    rw [next, grown_of_lt few, zero, Nat.zero_mul, Nat.zero_min, capped_zero]
  · intro _ many
    rw [next, grown_of_ge many]
  · intro longest limited
    rw [next]
    exact capped_le limited policy.grown
  · intro other later again more
    have same := prepare_recount ready other
    rw [again, Except.ok.injEq] at same
    subst same
    have last : (policy.recount other).nextInterval =
        (policy.recount other).capped (policy.recount other).grown :=
      nextInterval_exponential exponential
    rw [next, last]
    exact capped_mono rfl (grown_mono rfl more)

/-- A hundred retries, as soon as possible at first. -/
def eagerOption : Config :=
  ⟨[("_retry", .object [("interval_type", .text "exponential"), ("limit", .nat 100)])]⟩

def eagerState : Document := [("retry_count", .nat 64)]

def eagerPolicy : RetryPolicy := ⟨100, 64, 0, none, .exponential, eagerState⟩

/-- After 64 retries with no interval between them the next one waits for ever. -/
theorem zero_interval_overflows :
    prepare eagerOption eagerState false = .ok eagerPolicy ∧
      eagerPolicy.nextInterval = Span.maxSeconds ∧ eagerPolicy.doubled = 0 := by
  refine ⟨?_, ?_, ?_⟩
  · rfl
  · decide
  · decide

def slowOption : Config :=
  ⟨[("_retry", .object [("interval", .nat 10), ("interval_type", .text "exponential"),
    ("limit", .nat 100), ("max_interval", .nat 50)])]⟩

theorem third_interval_is_capped :
    ∃ policy, prepare slowOption [("retry_count", .nat 3)] false = .ok policy ∧
      policy.intervalType = .exponential ∧ policy.nextInterval = 50 := by
  have ready : prepare slowOption [("retry_count", .nat 3)] false =
      .ok ⟨100, 3, 10, some 50, .exponential, [("retry_count", .nat 3)]⟩ := by
    rfl
  obtain ⟨formula, _⟩ := exponential_interval_doubles ready rfl
  exact ⟨_, ready, rfl, formula (.inl (by decide))⟩

end Resumable.RetryPolicy
