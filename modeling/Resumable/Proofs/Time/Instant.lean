import Mathlib.Order.Lattice
import Resumable.Time.Instant

/-!
The order of instants, and what a delay does to one. Outside leap seconds an instant is a point on a
scale of nanoseconds. A number of seconds is cut twice before it is added, to the 64-bit numbers and
to the longest delay, and the sum is cut to the last instant; the longest delay is longer than the
calendar, so that the last cut is all that is seen.
-/

namespace Resumable

namespace Delay

/-- A delay in nanoseconds. -/
def length (delay : Delay) : Nat := delay.seconds * 1000000000 + delay.nanos

theorem length_longest : longest.length = maxMillis * 1000000 := by decide

/-- A delay of so many seconds is exact up to the longest one. -/
theorem length_ofSeconds (seconds : Nat) :
    (ofSeconds seconds).length = min (seconds * 1000000000) longest.length := by
  rw [length_longest]
  have edge : 1 <<< 63 = maxMillis + 1 := rfl
  by_cases fits : Bounded seconds 0
  · have within : seconds * 1000000000 ≤ maxMillis * 1000000 := by
      have bound := fits
      rw [Bounded] at bound
      omega
    have signed : seconds < 1 <<< 63 := by
      rw [edge]
      omega
    have exactly : ofSeconds seconds = ⟨seconds, 0, fits⟩ := by
      rw [ofSeconds, signed?, if_pos signed, Option.bind_some, ofSeconds?, dif_pos fits,
        Option.getD_some]
    rw [exactly, min_eq_left within, length, Nat.add_zero]
  · have longer : maxMillis * 1000000 ≤ seconds * 1000000000 := by
      rw [Bounded] at fits
      omega
    have cut : ofSeconds seconds = longest := by
      rw [ofSeconds, signed?]
      split
      · rw [Option.bind_some, ofSeconds?, dif_neg fits, Option.getD_none]
      · rfl
    rw [cut, length_longest, min_eq_right longer]

end Delay

namespace Instant

theorem le_iff {left right : Instant} :
    left.le right = true ↔
      left.seconds < right.seconds ∨
        left.seconds = right.seconds ∧ left.nanos ≤ right.nanos := by
  simp [le]

theorem le_refl (instant : Instant) : instant.le instant = true := by
  simp [le_iff]

theorem le_total (left right : Instant) : left.le right = true ∨ right.le left = true := by
  simp only [le_iff]
  omega

theorem le_trans {first second third : Instant} (early : first.le second = true)
    (late : second.le third = true) : first.le third = true := by
  simp only [le_iff] at early late ⊢
  omega

theorem le_antisymm {left right : Instant} (below : left.le right = true)
    (above : right.le left = true) : left = right := by
  simp only [le_iff] at below above
  have seconds : left.seconds = right.seconds := by omega
  have nanos : left.nanos = right.nanos := by omega
  cases left
  cases right
  cases seconds
  cases nanos
  rfl

/-- Not in a leap second. -/
def Plain (instant : Instant) : Prop := instant.nanos < 1000000000

/-- Nanoseconds since the epoch. -/
def point (instant : Instant) : Int := instant.seconds * 1000000000 + instant.nanos

theorem plain_latest : latest.Plain := by
  unfold Plain
  decide

/-- Nanoseconds since the epoch, by a clock that stands still in leap seconds. -/
def tick (instant : Instant) : Int := instant.seconds * 1000000000 + min instant.nanos 999999999

theorem tick_of_plain {instant : Instant} (plain : instant.Plain) :
    instant.tick = instant.point := by
  rw [Plain] at plain
  rw [tick, point]
  omega

-- To an instant outside leap seconds, one within is like the last nanosecond before it.
theorem le_iff_tick {left right : Instant} (plain : left.Plain) :
    left.le right = true ↔ left.point ≤ right.tick := by
  rw [Plain] at plain
  rw [le_iff, point, tick]
  omega

theorem le_iff_point {left right : Instant} (first : left.Plain) (second : right.Plain) :
    left.le right = true ↔ left.point ≤ right.point := by
  rw [le_iff_tick first, tick_of_plain second]

theorem point_le_latest {instant : Instant} (plain : instant.Plain) :
    instant.point ≤ latest.point := by
  have within := instant.representable.2.1
  have last : latest.point = lastSecond * 1000000000 + 999999999 := rfl
  rw [Plain] at plain
  rw [last, point]
  omega

theorem of?_eq {instant : Instant} {seconds : Int} {nanos : Nat}
    (found : of? seconds nanos = some instant) :
    instant.seconds = seconds ∧ instant.nanos = nanos := by
  rw [of?] at found
  split at found
  · cases found
    exact ⟨rfl, rfl⟩
  · cases found

variable {now : Instant}

theorem add?_of_plain (plain : now.Plain) (delay : Delay) :
    now.add? delay = of?
      (now.seconds + delay.seconds + ((now.nanos + delay.nanos) / 1000000000 : Nat))
      ((now.nanos + delay.nanos) % 1000000000) := by
  have outside : ¬ 1000000000 ≤ now.nanos := Nat.not_le_of_lt plain
  simp [add?, outside]

/-- A sum that is found is exact. -/
theorem point_of_add? (plain : now.Plain) {delay : Delay} {later : Instant}
    (found : now.add? delay = some later) :
    later.Plain ∧ later.point = now.point + delay.length := by
  rw [add?_of_plain plain] at found
  obtain ⟨seconds, nanos⟩ := of?_eq found
  rw [Plain, point, point, Delay.length, seconds, nanos]
  constructor
  · exact Nat.mod_lt _ (by decide)
  · omega

/-- A sum is missed only beyond the last instant. -/
theorem add?_eq_none (plain : now.Plain) {delay : Delay} (missed : now.add? delay = none) :
    latest.point < now.point + delay.length := by
  rw [add?_of_plain plain, of?] at missed
  have inside : now.nanos + delay.nanos < 2000000000 := by
    have bound := delay.bounded.1
    rw [Plain] at plain
    omega
  by_contra within
  have first := now.representable.1
  have last : latest.point = lastSecond * 1000000000 + 999999999 := rfl
  rw [last, point, Delay.length] at within
  split at missed
  · cases missed
  · rename_i beyond
    apply beyond
    refine ⟨?_, ?_, ?_, ?_⟩ <;> omega

/-- What is asked of an addition of delays: a sum is exact, and it is missing just when it is beyond
the last instant. -/
structure Adds (add? : Instant → Delay → Option Instant) : Prop where
  exactly : ∀ {now later : Instant} {delay : Delay}, now.Plain → add? now delay = some later →
    later.Plain ∧ later.point = now.point + delay.length
  missing : ∀ {now : Instant} {delay : Delay}, now.Plain →
    (add? now delay = none ↔ latest.point < now.point + delay.length)

theorem adds : Adds add? where
  exactly plain found := point_of_add? plain found
  missing := by
    intro now delay plain
    refine ⟨add?_eq_none plain, ?_⟩
    intro beyond
    cases found : now.add? delay with
    | none => rfl
    | some later =>
        obtain ⟨plainLater, exactly⟩ := point_of_add? plain found
        have bound := point_le_latest plainLater
        omega

variable {add? : Instant → Delay → Option Instant}

/-- Seconds later is the exact instant, or the latest one when that comes first. -/
theorem point_addSecondsBy (adds : Adds add?) (plain : now.Plain) (seconds : Nat) :
    (now.addSecondsBy add? seconds).Plain ∧
      (now.addSecondsBy add? seconds).point =
        min (now.point + seconds * 1000000000) latest.point := by
  have cut := Delay.length_ofSeconds seconds
  rw [Delay.length_longest] at cut
  have most : Delay.maxMillis = 9223372036854775807 := rfl
  have first : firstSecond = -8334601228800 := rfl
  have last : latest.point = 8210266876799 * 1000000000 + 999999999 := rfl
  have start : firstSecond * 1000000000 ≤ now.point := by
    have early := now.representable.1
    rw [point]
    omega
  rw [addSecondsBy]
  cases found : add? now (.ofSeconds seconds) with
  | some later =>
      obtain ⟨plainLater, exactly⟩ := adds.exactly plain found
      refine ⟨plainLater, ?_⟩
      have bound := point_le_latest plainLater
      rw [Option.getD_some]
      omega
  | none =>
      have beyond := (adds.missing plain).mp found
      refine ⟨plain_latest, ?_⟩
      rw [Option.getD_none]
      omega

theorem le_addSecondsBy (adds : Adds add?) (plain : now.Plain) (seconds : Nat) :
    now.le (now.addSecondsBy add? seconds) = true := by
  obtain ⟨plainLater, exactly⟩ := point_addSecondsBy adds plain seconds
  have bound := point_le_latest plain
  rw [le_iff_point plain plainLater, exactly]
  omega

theorem addSecondsBy_mono {other? : Instant → Delay → Option Instant} (adds : Adds add?)
    (others : Adds other?) (plain : now.Plain) {shorter longer : Nat} (within : shorter ≤ longer) :
    (now.addSecondsBy add? shorter).le (now.addSecondsBy other? longer) = true := by
  obtain ⟨plainFirst, first⟩ := point_addSecondsBy adds plain shorter
  obtain ⟨plainSecond, second⟩ := point_addSecondsBy others plain longer
  rw [le_iff_point plainFirst plainSecond, first, second]
  omega

/-! Milliseconds. -/

def firstMilli : Int := firstSecond * 1000

def lastMilli : Int := lastSecond * 1000 + 999

theorem bounds_millis (instant : Instant) :
    firstMilli ≤ instant.millis ∧ instant.millis ≤ lastMilli + 1000 := by
  obtain ⟨low, high, small, -⟩ := instant.representable
  rw [firstMilli, lastMilli, millis, Int.ofNat_eq_natCast]
  omega

/-- In the calendar every millisecond is an instant. -/
theorem ofMillis?_within {millis : Int} (low : firstMilli ≤ millis) (high : millis ≤ lastMilli) :
    ∃ instant, ofMillis? millis = some instant ∧ instant.Plain ∧
      instant.point = millis * 1000000 := by
  have first : firstMilli = -8334601228800 * 1000 := rfl
  have last : lastMilli = 8210266876799 * 1000 + 999 := rfl
  have seconds : Int.fdiv millis 1000 = millis / 1000 := Int.fdiv_eq_ediv_of_nonneg _ (by decide)
  have rest : Int.fmod millis 1000 = millis % 1000 := Int.fmod_eq_emod_of_nonneg _ (by decide)
  have fits : Representable (Int.fdiv millis 1000) ((Int.fmod millis 1000).toNat * 1000000) := by
    rw [seconds, rest, Representable, firstSecond, lastSecond]
    omega
  have found : ofMillis? millis = some ⟨_, _, fits⟩ := dif_pos fits
  obtain ⟨whole, part⟩ := of?_eq found
  refine ⟨_, found, ?_, ?_⟩
  · rw [Plain, part, rest]
    omega
  · rw [point, whole, part, seconds, rest]
    omega

/-- Behind the calendar there are none. -/
theorem ofMillis?_beyond {millis : Int} (beyond : lastMilli < millis) :
    ofMillis? millis = none := by
  have last : lastMilli = 8210266876799 * 1000 + 999 := rfl
  rw [ofMillis?, of?, dif_neg]
  rintro ⟨-, high, -⟩
  rw [Int.fdiv_eq_ediv_of_nonneg _ (by decide), lastSecond] at high
  omega

theorem plain_epoch : epoch.Plain := by
  unfold Plain
  decide

theorem point_epoch : epoch.point = 0 := rfl

end Instant

end Resumable
