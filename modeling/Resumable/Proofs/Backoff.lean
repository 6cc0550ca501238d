import Resumable.Proofs.Binary64
import Resumable.Retry

/-!
The growing wait of a retry, computed in binary floating point, against the natural numbers. While
the power of two is finite every step is exact; when it is not, the product is infinite and the
maximum is taken. Only from a minimum of zero does the infinite power make no number, and that gives
way to the maximum too.
-/

namespace Resumable.Backoff

open Binary64 (short_of_lt whole)

variable {low high iteration : Nat}

theorem log2_lt_of_short {value : Nat} (small : value < 2 ^ 53) : value.log2 < 1024 := by
  by_cases zero : value = 0
  · rw [zero]
    decide
  · have power : value.log2 < 53 := (Nat.log2_lt zero).mpr small
    omega

theorem backoff_ofSeconds (ordered : low ≤ high) (iteration : Nat) (base : Binary64) :
    (Interval.ofSeconds low high).backoff iteration base =
      (((Binary64.ofNat low).mul (base.pow iteration)).min (Binary64.ofNat high)).truncate
        Span.maxSeconds := by
  have kept : Interval.ofSeconds low high = ⟨.ofSeconds low, .ofSeconds high⟩ := by
    rw [Interval.ofSeconds, Interval.of]
    by_cases less : low < high
    · simp [Span.le, Span.ofSeconds, less]
    · have same : low = high := by omega
      simp [Span.le, Span.ofSeconds, same]
  rw [kept]
  rfl

theorem truncate_short {value : Nat} (small : value < 2 ^ 53) :
    (whole value).truncate Span.maxSeconds = value := by
  rw [Binary64.truncate_whole (short_of_lt small) (log2_lt_of_short small)]
  exact Nat.min_eq_left (Nat.le_of_lt (Nat.lt_of_lt_of_le small (by decide)))

theorem backoff_finite (ordered : low ≤ high) (short : high < 2 ^ 53) (finite : iteration < 1024) :
    (Interval.ofSeconds low high).backoff iteration Retry.base =
      min (low * 2 ^ iteration) high := by
  have little : low < 2 ^ 53 := Nat.lt_of_le_of_lt ordered short
  have power := (short_of_lt (show 1 < 2 ^ 53 by decide)).shift iteration
  have reach : (2 ^ iteration).log2 < 1024 := by
    rw [Nat.log2_two_pow]
    exact finite
  rw [Nat.one_mul] at power
  rw [backoff_ofSeconds ordered, Retry.base, Binary64.pow_two, if_pos finite,
    Binary64.ofNat_whole (short_of_lt little), Binary64.ofNat_whole (short_of_lt short),
    Binary64.mul_whole (short_of_lt little) power ((short_of_lt little).shift iteration)
      (log2_lt_of_short little) reach, Binary64.min_whole]
  exact truncate_short (Nat.lt_of_le_of_lt (Nat.min_le_right ..) short)

theorem backoff_infinite (ordered : low ≤ high) (short : high < 2 ^ 53)
    (beyond : 1024 ≤ iteration) :
    (Interval.ofSeconds low high).backoff iteration Retry.base = high := by
  have little : low < 2 ^ 53 := Nat.lt_of_le_of_lt ordered short
  rw [backoff_ofSeconds ordered, Retry.base, Binary64.pow_two, if_neg (Nat.not_lt.mpr beyond),
    Binary64.ofNat_whole (short_of_lt little), Binary64.ofNat_whole (short_of_lt short),
    Binary64.mul_infinite (short_of_lt little) (log2_lt_of_short little)]
  by_cases zero : low = 0
  · rw [if_pos zero]
    exact truncate_short short
  · rw [if_neg zero, Binary64.min_infinite (log2_lt_of_short short)]
    exact truncate_short short

theorem product_of_ge (positive : low ≠ 0) (short : high < 2 ^ 53) (beyond : 1024 ≤ iteration) :
    min (low * 2 ^ iteration) high = high := by
  apply Nat.min_eq_right
  calc
    high ≤ 2 ^ 53 := Nat.le_of_lt short
    _ ≤ 2 ^ iteration := Nat.pow_le_pow_right (by decide) (by omega)
    _ ≤ low * 2 ^ iteration := Nat.le_mul_of_pos_left _ (Nat.pos_of_ne_zero positive)

theorem product_bounds (ordered : low ≤ high) (iteration : Nat) :
    low ≤ min (low * 2 ^ iteration) high ∧ min (low * 2 ^ iteration) high ≤ high := by
  have grown : low ≤ low * 2 ^ iteration :=
    Nat.le_mul_of_pos_right low (Nat.two_pow_pos iteration)
  exact ⟨Nat.le_min.mpr ⟨grown, ordered⟩, Nat.min_le_right ..⟩

theorem product_mono {later : Nat} (before : iteration ≤ later) :
    min (low * 2 ^ iteration) high ≤ min (low * 2 ^ later) high := by
  apply min_le_min_right
  exact Nat.mul_le_mul_left low (Nat.pow_le_pow_right (by decide) before)

/-- Every wait, whether the power of two is finite or not. -/
theorem backoff_cases (ordered : low ≤ high) (short : high < 2 ^ 53) (iteration : Nat) :
    iteration < 1024 ∧
        (Interval.ofSeconds low high).backoff iteration Retry.base =
          min (low * 2 ^ iteration) high ∨
      1024 ≤ iteration ∧ (Interval.ofSeconds low high).backoff iteration Retry.base = high := by
  rcases Nat.lt_or_ge iteration 1024 with finite | beyond
  · exact .inl ⟨finite, backoff_finite ordered short finite⟩
  · exact .inr ⟨beyond, backoff_infinite ordered short beyond⟩

/-- The wait of a retry is the minimum doubled once for each attempt and cut to the maximum,
exactly, unless the minimum is zero and the power of two is infinite. In any case it is between the
minimum and the maximum and does not get shorter. -/
theorem backoff_doubles (ordered : low ≤ high) (short : high < 2 ^ 53) (iteration : Nat) :
    (low ≠ 0 ∨ iteration < 1024 →
        (Interval.ofSeconds low high).backoff iteration Retry.base =
          min (low * 2 ^ iteration) high) ∧
      (low = 0 → 1024 ≤ iteration →
        (Interval.ofSeconds low high).backoff iteration Retry.base = high) ∧
      low ≤ (Interval.ofSeconds low high).backoff iteration Retry.base ∧
      (Interval.ofSeconds low high).backoff iteration Retry.base ≤ high ∧
      ∀ later, iteration ≤ later →
        (Interval.ofSeconds low high).backoff iteration Retry.base ≤
          (Interval.ofSeconds low high).backoff later Retry.base := by
  refine ⟨?_, fun _ beyond => backoff_infinite ordered short beyond, ?_, ?_, ?_⟩
  · intro plain
    rcases backoff_cases ordered short iteration with ⟨_, same⟩ | ⟨beyond, same⟩
    · exact same
    · have positive := plain.resolve_right (Nat.not_lt.mpr beyond)
      exact same.trans (product_of_ge positive short beyond).symm
  · rcases backoff_cases ordered short iteration with ⟨_, same⟩ | ⟨_, same⟩
    · rw [same]
      exact (product_bounds ordered iteration).1
    · rw [same]
      exact ordered
  · rcases backoff_cases ordered short iteration with ⟨_, same⟩ | ⟨_, same⟩
    · rw [same]
      exact (product_bounds ordered iteration).2
    · rw [same]
  · intro later before
    rcases backoff_cases ordered short iteration with ⟨_, same⟩ | ⟨beyond, same⟩
    · rcases backoff_cases ordered short later with ⟨_, last⟩ | ⟨_, last⟩
      · rw [same, last]
        exact product_mono before
      · rw [same, last]
        exact (product_bounds ordered iteration).2
    · rw [same, backoff_infinite ordered short (beyond.trans before)]

/-- From a minimum of zero there is no wait at first, and the longest one after 1024 attempts. -/
theorem zero_wait_jumps :
    (Interval.ofSeconds 0 30).backoff 1023 Retry.base = 0 ∧
      (Interval.ofSeconds 0 30).backoff 1024 Retry.base = 30 ∧ min (0 * 2 ^ 1024) 30 = 0 := by
  refine ⟨?_, ?_, ?_⟩
  · decide +kernel
  · decide +kernel
  · rw [Nat.zero_mul, Nat.zero_min]

/-- A wait that has come to the maximum stays there. -/
theorem longest_wait_stays :
    3 ≤ 20 ∧ 20 < 2 ^ 53 ∧ (Interval.ofSeconds 3 20).backoff 3 Retry.base = 20 ∧
      (Interval.ofSeconds 3 20).backoff 4294967295 Retry.base = 20 := by
  have ordered : 3 ≤ 20 := by decide
  have short : 20 < 2 ^ 53 := by decide
  obtain ⟨doubles, -, -, -, grows⟩ := backoff_doubles ordered short 3
  obtain ⟨-, -, -, most, -⟩ := backoff_doubles ordered short 4294967295
  have third : (Interval.ofSeconds 3 20).backoff 3 Retry.base = 20 := doubles (.inl (by decide))
  have least := grows 4294967295 (by decide)
  rw [third] at least
  exact ⟨ordered, short, third, Nat.le_antisymm most least⟩

end Resumable.Backoff
