import Mathlib.Algebra.Order.Ring.Nat
import Mathlib.Order.Lattice
import Mathlib.Tactic.Ring
import Resumable.Binary64

/-!
Whole numbers in binary floating point. A whole number is exact if its bits fit a significand, the
zeros at its end aside, and it is below the largest power. On exact numbers a product is exact or
infinite, the smaller of two is the smaller number, and the integer part is the number itself.
-/

namespace Resumable.Binary64

/-- The bits of the number, the zeros at its end aside, fit a significand. -/
def Short (value : Nat) : Prop := ∃ bits steps, bits < 2 ^ 53 ∧ value = bits * 2 ^ steps

/-- The first 53 bits of a number, with zeros where it has fewer. -/
def leading (value : Nat) : Nat := value * 2 ^ 52 / 2 ^ value.log2

/-- The rank of a whole number, further bits cut off. -/
def rankOf (value : Nat) : Nat :=
  if value = 0 then 0 else (value.log2 + 1022) * 2 ^ 52 + leading value

def whole (value : Nat) : Binary64 := ofRank false (rankOf value)

theorem short_of_lt {value : Nat} (small : value < 2 ^ 53) : Short value :=
  ⟨value, 0, small, by rw [Nat.pow_zero, Nat.mul_one]⟩

theorem Short.shift {value : Nat} (short : Short value) (more : Nat) :
    Short (value * 2 ^ more) := by
  obtain ⟨bits, steps, small, rfl⟩ := short
  exact ⟨bits, steps + more, small, by rw [Nat.mul_assoc, Nat.pow_add]⟩

theorem leading_bounds {value : Nat} (positive : value ≠ 0) :
    2 ^ 52 ≤ leading value ∧ leading value < 2 ^ 53 := by
  have above : 2 ^ value.log2 ≤ value := Nat.log2_self_le positive
  have below : value < 2 ^ (value.log2 + 1) := Nat.lt_log2_self
  have power : 0 < 2 ^ value.log2 := Nat.two_pow_pos _
  constructor
  · rw [leading, Nat.le_div_iff_mul_le power, Nat.mul_comm]
    exact Nat.mul_le_mul_right _ above
  · rw [leading, Nat.div_lt_iff_lt_mul power]
    calc
      value * 2 ^ 52 < 2 ^ (value.log2 + 1) * 2 ^ 52 :=
        Nat.mul_lt_mul_of_pos_right below (by decide)
      _ = 2 ^ 53 * 2 ^ value.log2 := by ring

-- No bit is cut off.
theorem Short.leading_eq {value : Nat} (short : Short value) :
    leading value * 2 ^ value.log2 = value * 2 ^ 52 := by
  apply Nat.div_mul_cancel
  obtain ⟨bits, steps, small, rfl⟩ := short
  by_cases zero : bits * 2 ^ steps = 0
  · rw [zero, Nat.zero_mul]
    exact Nat.dvd_zero _
  · have below : (bits * 2 ^ steps).log2 < steps + 53 := by
      rw [Nat.log2_lt zero]
      calc
        bits * 2 ^ steps < 2 ^ 53 * 2 ^ steps :=
          Nat.mul_lt_mul_of_pos_right small (Nat.two_pow_pos steps)
        _ = 2 ^ (steps + 53) := by ring
    have within : (bits * 2 ^ steps).log2 ≤ steps + 52 := by omega
    have whole : bits * 2 ^ steps * 2 ^ 52 = 2 ^ (steps + 52) * bits := by ring
    rw [whole]
    exact Nat.dvd_mul_right_of_dvd (Nat.pow_dvd_pow 2 within) bits

theorem rankOf_mono {first second : Nat} (ordered : first ≤ second) :
    rankOf first ≤ rankOf second := by
  by_cases zero : first = 0
  · rw [rankOf, if_pos zero]
    exact Nat.zero_le _
  · have positive : second ≠ 0 := by omega
    have power : first.log2 ≤ second.log2 := by
      rw [Nat.le_log2 positive]
      exact (Nat.log2_self_le zero).trans ordered
    rw [rankOf, rankOf, if_neg zero, if_neg positive]
    rcases Nat.lt_or_eq_of_le power with less | same
    · have most := (leading_bounds zero).2
      have least := (leading_bounds positive).1
      omega
    · rw [leading, leading, same]
      apply Nat.add_le_add_left
      exact Nat.div_le_div_right (Nat.mul_le_mul_right _ ordered)

theorem rankOf_lt {value : Nat} (small : value.log2 < 1024) : rankOf value < rankBound := by
  have bound : rankBound = 2047 * 2 ^ 52 := by decide
  rw [rankOf, bound]
  split
  · decide
  · rename_i positive
    have most := (leading_bounds positive).2
    omega

/-! Ratios that are whole are not rounded. -/

theorem roundHalfEven_whole {quotient den : Nat} (positive : 0 < den) :
    roundHalfEven (quotient * den) den = quotient := by
  rw [roundHalfEven, Nat.mul_mod_left, Nat.mul_div_cancel _ positive, Nat.mul_zero]
  simp only [if_pos positive]

theorem log2_shifted {value : Nat} (positive : value ≠ 0) (steps : Nat) :
    (value * 2 ^ steps).log2 = value.log2 + steps := by
  have power : 0 < 2 ^ steps := Nat.two_pow_pos steps
  have shifted : value * 2 ^ steps ≠ 0 := Nat.mul_ne_zero positive (Nat.pos_iff_ne_zero.mp power)
  rw [Nat.log2_eq_iff shifted]
  constructor
  · rw [Nat.pow_add]
    exact Nat.mul_le_mul_right _ (Nat.log2_self_le positive)
  · calc
      value * 2 ^ steps < 2 ^ (value.log2 + 1) * 2 ^ steps :=
        Nat.mul_lt_mul_of_pos_right Nat.lt_log2_self power
      _ = 2 ^ (value.log2 + steps + 1) := by ring

theorem leadingBit_shifted {value : Nat} (positive : value ≠ 0) (steps : Nat) :
    leadingBit (value * 2 ^ steps) (2 ^ steps) = value.log2 := by
  have guess : Int.ofNat (value * 2 ^ steps).log2 - Int.ofNat (2 ^ steps).log2 = value.log2 := by
    rw [log2_shifted positive, Nat.log2_two_pow]
    simp only [Int.ofNat_eq_natCast]
    omega
  have nonneg : (-(value.log2 : Int)).toNat = 0 := by omega
  have reached : 2 ^ steps * 2 ^ value.log2 ≤ value * 2 ^ steps := by
    rw [Nat.mul_comm]
    exact Nat.mul_le_mul_right _ (Nat.log2_self_le positive)
  rw [leadingBit, guess]
  simp only [nonneg, Int.toNat_natCast, Nat.shiftLeft_eq, Nat.pow_zero, Nat.mul_one, reached,
    if_true]

-- Scaled so that the leading bit is the first of a significand, a short number is still whole.
theorem scaled_whole {value : Nat} (short : Short value) (steps : Nat) :
    value * 2 ^ steps * 2 ^ (52 - value.log2) =
      leading value * (2 ^ steps * 2 ^ (value.log2 - 52)) := by
  have aligned := short.leading_eq
  rcases Nat.le_total value.log2 52 with few | many
  · have split : 2 ^ 52 = 2 ^ (52 - value.log2) * 2 ^ value.log2 := by
      rw [← Nat.pow_add, Nat.sub_add_cancel few]
    rw [split, ← Nat.mul_assoc] at aligned
    have same := Nat.eq_of_mul_eq_mul_right (Nat.two_pow_pos _) aligned
    rw [Nat.sub_eq_zero_of_le few, same]
    ring
  · have split : 2 ^ value.log2 = 2 ^ (value.log2 - 52) * 2 ^ 52 := by
      rw [← Nat.pow_add, Nat.sub_add_cancel many]
    rw [split, ← Nat.mul_assoc] at aligned
    have same := Nat.eq_of_mul_eq_mul_right (Nat.two_pow_pos _) aligned
    rw [Nat.sub_eq_zero_of_le many]
    calc
      value * 2 ^ steps * 2 ^ 0 = value * 2 ^ steps := by ring
      _ = leading value * 2 ^ (value.log2 - 52) * 2 ^ steps := by rw [same]
      _ = leading value * (2 ^ steps * 2 ^ (value.log2 - 52)) := by ring

theorem ofRatio_whole {value : Nat} (short : Short value) (steps : Nat) :
    ofRatio false (value * 2 ^ steps) (2 ^ steps) = whole value := by
  have power : 2 ^ steps ≠ 0 := Nat.pos_iff_ne_zero.mp (Nat.two_pow_pos steps)
  by_cases zero : value = 0
  · subst zero
    rw [ofRatio, Nat.zero_mul]
    rfl
  · have shifted : value * 2 ^ steps ≠ 0 := Nat.mul_ne_zero zero power
    have scale : max ((value.log2 : Int) - 52) (-1074) = value.log2 - 52 := by omega
    have above : (-((value.log2 : Int) - 52)).toNat = 52 - value.log2 := by omega
    have below : ((value.log2 : Int) - 52).toNat = value.log2 - 52 := by omega
    have rank : ((value.log2 : Int) - 52 + 1074).toNat = value.log2 + 1022 := by omega
    have divisor : 0 < 2 ^ steps * 2 ^ (value.log2 - 52) :=
      Nat.mul_pos (Nat.two_pow_pos _) (Nat.two_pow_pos _)
    rw [ofRatio, leadingBit_shifted zero]
    simp only [shifted, power, decide_false, Bool.or_self, Bool.false_eq_true, if_false, scale,
      above, below, rank, Nat.shiftLeft_eq, scaled_whole short, roundHalfEven_whole divisor]
    rw [whole, rankOf, if_neg zero]

theorem ofNat_whole {value : Nat} (short : Short value) : ofNat value = whole value := by
  have ratio := ofRatio_whole short 0
  rwa [Nat.pow_zero, Nat.mul_one] at ratio

/-! Finite numbers that are whole. -/

/-- The number is this whole number. -/
def Finite.Holds (number : Finite) (value : Nat) : Prop :=
  number.negative = false ∧
    number.significand * 2 ^ number.scale.toNat = value * 2 ^ (-number.scale).toNat

theorem Finite.holds_of_rank {number : Finite} {value : Nat} (short : Short value)
    (positive : value ≠ 0) (plain : number.negative = false)
    (rank : number.rank = rankOf value) : number.Holds value := by
  obtain ⟨least, most⟩ := leading_bounds positive
  rw [rankOf, if_neg positive] at rank
  have hidden : (1 <<< 52 : Nat) = 2 ^ 52 := rfl
  have normal : ¬ number.rank < 2 ^ 52 := by omega
  have significand : number.significand = leading value := by
    rw [Finite.significand, hidden, if_neg normal]
    omega
  have scale : number.scale = value.log2 - 52 := by
    rw [Finite.scale, hidden, if_neg normal, Nat.shiftRight_eq_div_pow]
    simp only [Int.ofNat_eq_natCast]
    omega
  have whole := scaled_whole short 0
  rw [Nat.pow_zero, Nat.mul_one, Nat.one_mul] at whole
  have above : (-((value.log2 : Int) - 52)).toNat = 52 - value.log2 := by omega
  have below : ((value.log2 : Int) - 52).toNat = value.log2 - 52 := by omega
  refine ⟨plain, ?_⟩
  rw [significand, scale, above, below, whole]

theorem Finite.holds_zero {number : Finite} (plain : number.negative = false)
    (rank : number.rank = 0) : number.Holds 0 := by
  have significand : number.significand = 0 := by
    rw [Finite.significand, rank]
    rfl
  refine ⟨plain, ?_⟩
  rw [significand, Nat.zero_mul, Nat.zero_mul]

theorem whole_finite {value : Nat} (short : Short value) (small : value.log2 < 1024) :
    ∃ number : Finite, whole value = .finite number ∧ number.rank = rankOf value ∧
      number.Holds value := by
  refine ⟨⟨false, rankOf value, rankOf_lt small⟩, dif_pos (rankOf_lt small), rfl, ?_⟩
  by_cases zero : value = 0
  · subst zero
    exact Finite.holds_zero rfl rfl
  · exact Finite.holds_of_rank short zero rfl rfl

-- The signs of the scales do not matter, so both sides are scaled until no scale is negative.
theorem scaled_mul {first second left right : Nat} {low high : Int}
    (one : left * 2 ^ low.toNat = first * 2 ^ (-low).toNat)
    (other : right * 2 ^ high.toNat = second * 2 ^ (-high).toNat) :
    left * right * 2 ^ (low + high).toNat = first * second * 2 ^ (-(low + high)).toNat := by
  have scales : (low + high).toNat + ((-low).toNat + (-high).toNat) =
      (-(low + high)).toNat + (low.toNat + high.toNat) := by omega
  apply Nat.eq_of_mul_eq_mul_right (Nat.two_pow_pos ((-low).toNat + (-high).toNat))
  calc
    left * right * 2 ^ (low + high).toNat * 2 ^ ((-low).toNat + (-high).toNat)
      = left * right * 2 ^ ((low + high).toNat + ((-low).toNat + (-high).toNat)) := by ring
    _ = left * right * 2 ^ ((-(low + high)).toNat + (low.toNat + high.toNat)) := by rw [scales]
    _ = left * 2 ^ low.toNat * (right * 2 ^ high.toNat) * 2 ^ (-(low + high)).toNat := by ring
    _ = first * 2 ^ (-low).toNat * (second * 2 ^ (-high).toNat) * 2 ^ (-(low + high)).toNat := by
      rw [one, other]
    _ = first * second * 2 ^ (-(low + high)).toNat * 2 ^ ((-low).toNat + (-high).toNat) := by ring

/-- The product of whole numbers is exact, or infinite where it is out of reach. -/
theorem mul_whole {first second : Nat} (one : Short first) (other : Short second)
    (both : Short (first * second)) (small : first.log2 < 1024) (little : second.log2 < 1024) :
    (whole first).mul (whole second) = whole (first * second) := by
  obtain ⟨left, same, -, plain, held⟩ := whole_finite one small
  obtain ⟨right, again, -, bare, kept⟩ := whole_finite other little
  rw [same, again]
  simp only [mul, isNegative, plain, bare, bne_self_eq_false, ofScaled, Nat.shiftLeft_eq,
    Nat.one_mul]
  rw [scaled_mul held kept]
  exact ofRatio_whole both _

theorem mul_infinite {value : Nat} (short : Short value) (small : value.log2 < 1024) :
    (whole value).mul (.infinite false) = if value = 0 then .nan else .infinite false := by
  obtain ⟨number, same, rank, plain, -⟩ := whole_finite short small
  have zero : number.rank = 0 ↔ value = 0 := by
    rw [rank, rankOf]
    split
    · rename_i zero
      exact iff_of_true rfl zero
    · rename_i positive
      have least := (leading_bounds positive).1
      exact iff_of_false (by omega) positive
  rw [same]
  simp only [mul, isNegative, plain, bne_self_eq_false, isZero, Bool.or_false, beq_iff_eq, zero]

theorem place_ofRank (rank : Nat) :
    (ofRank false rank).place = (Min.min rank rankBound : Nat) := by
  rw [ofRank]
  split
  · rename_i fits
    rw [Nat.min_eq_left (Nat.le_of_lt fits)]
    rfl
  · rename_i beyond
    rw [Nat.min_eq_right (Nat.le_of_not_lt beyond)]
    rfl

theorem min_ofRank (first second : Nat) :
    (ofRank false first).min (ofRank false second) = ofRank false (Min.min first second) := by
  have places : (ofRank false first).min (ofRank false second) =
      if (ofRank false second).place < (ofRank false first).place then ofRank false second
      else ofRank false first := by
    rw [ofRank, ofRank]
    split <;> split <;> rfl
  rw [places, place_ofRank, place_ofRank]
  split
  · rename_i later
    have ordered : second ≤ first := by omega
    rw [Nat.min_eq_right ordered]
  · rename_i early
    rcases Nat.le_total first second with ordered | reversed
    · rw [Nat.min_eq_left ordered]
    · rw [Nat.min_eq_right reversed]
      -- Ranks from the bound on are all the one infinity.
      by_cases fits : first < rankBound
      · have same : first = second := by omega
        rw [same]
      · rw [ofRank, ofRank, dif_neg fits, dif_neg (by omega)]

theorem min_whole (first second : Nat) :
    (whole first).min (whole second) = whole (Min.min first second) := by
  rw [whole, whole, min_ofRank, whole]
  congr 1
  rcases Nat.le_total first second with ordered | reversed
  · rw [Nat.min_eq_left ordered, Nat.min_eq_left (rankOf_mono ordered)]
  · rw [Nat.min_eq_right reversed, Nat.min_eq_right (rankOf_mono reversed)]

theorem min_infinite {value : Nat} (small : value.log2 < 1024) :
    (infinite false).min (whole value) = whole value := by
  have last : infinite false = ofRank false rankBound := by decide
  rw [last, whole, min_ofRank, Nat.min_eq_right (Nat.le_of_lt (rankOf_lt small))]

theorem truncate_whole {value : Nat} (short : Short value) (small : value.log2 < 1024)
    (limit : Nat) : (whole value).truncate limit = Min.min value limit := by
  obtain ⟨number, same, -, plain, held⟩ := whole_finite short small
  have floor : number.floorMagnitude = value := by
    rw [Finite.floorMagnitude, Nat.shiftLeft_eq, held, Nat.shiftRight_eq_div_pow]
    exact Nat.mul_div_cancel value (Nat.two_pow_pos _)
  rw [same]
  simp only [truncate, plain, Bool.false_eq_true, if_false, floor]

/-- Two to a whole power is exact until it is out of reach. -/
theorem pow_two (exponent : Nat) :
    (ofNat 2).pow exponent = if exponent < 1024 then whole (2 ^ exponent) else .infinite false := by
  have two : ofNat 2 = .finite ⟨false, 1024 <<< 52, by decide⟩ := by decide
  have form : (Finite.mk false (1024 <<< 52) (by decide)).significand = 1 <<< 52 := by decide
  have scale : (Finite.mk false (1024 <<< 52) (by decide)).scale + 52 = 1 := by decide
  rw [two, pow]
  simp only [form, scale, Int.one_mul, decide_true, Bool.not_false, Bool.and_self, if_true]
  by_cases small : exponent < 1024
  · have short := (short_of_lt (show 1 < 2 ^ 53 by decide)).shift exponent
    rw [Nat.one_mul] at short
    have reach : ¬ (1024 : Int) ≤ exponent := by omega
    have above : (max (exponent : Int) (-1080)).toNat = exponent := by omega
    have below : (-max (exponent : Int) (-1080)).toNat = 0 := by omega
    rw [if_neg reach, if_pos small, ofScaled, above, below, Nat.one_shiftLeft, Nat.shiftLeft_zero]
    exact ofNat_whole short
  · have beyond : (1024 : Int) ≤ exponent := by omega
    rw [if_pos beyond, if_neg small]

end Resumable.Binary64
