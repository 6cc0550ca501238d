import Mathlib.Tactic.Common
import Resumable.Time.Calendar

/-!
Every day has a date, and the date has that day. The years of the computation begin in March and are
counted in eras of 400. The year of a day is read off a scale on which no year of an era is longer
than another; that it is the right one is seen at the ends of the 400 years.
-/

namespace Resumable.Time.Date

/-- The days of an era before a year of it. -/
def daysBefore (year : Nat) : Nat := 365 * year + year / 4 - year / 100 + year / 400

theorem daysBefore_mono {first second : Nat} (before : first ≤ second) :
    daysBefore first ≤ daysBefore second := by
  induction before with
  | refl => exact Nat.le_refl _
  | @step year _ ih =>
      apply Nat.le_trans ih
      rw [daysBefore, daysBefore]
      omega

/-- Days of an era with the leap days taken out. -/
def evened (day : Nat) : Nat := day - day / 1460 + day / 36524 - day / 146096

theorem evened_mono {first second : Nat} (before : first ≤ second) :
    evened first ≤ evened second := by
  have centuries : first / 36524 ≤ second / 36524 := Nat.div_le_div_right before
  have early : first / 36524 / 4 = first / 146096 := Nat.div_div_eq_div_mul ..
  have late : second / 36524 / 4 = second / 146096 := Nat.div_div_eq_div_mul ..
  rw [evened, evened, ← early, ← late]
  generalize first / 36524 = lower at centuries
  generalize second / 36524 = upper at centuries
  omega

theorem evened_daysBefore : ∀ year < 400, 365 * year ≤ evened (daysBefore year) := by
  decide +kernel

theorem evened_lt_of_daysBefore :
    ∀ year < 400, evened (daysBefore (year + 1) - 1) < 365 * (year + 1) := by
  decide +kernel

theorem evened_bounds {day : Nat} (inEra : day < 146097) :
    evened day / 365 < 400 ∧ daysBefore (evened day / 365) ≤ day ∧
      day < daysBefore (evened day / 365 + 1) := by
  have inside : evened day / 365 < 400 := by
    have last : evened day ≤ evened 146096 := evened_mono (by omega)
    have scaled : evened 146096 = 145999 := by decide
    omega
  refine ⟨inside, ?_, ?_⟩
  · rcases Nat.lt_or_ge day (daysBefore (evened day / 365)) with later | within
    · obtain ⟨year, same⟩ : ∃ year, evened day / 365 = year + 1 := by
        apply Nat.exists_eq_add_one_of_ne_zero
        intro first
        rw [first] at later
        exact Nat.not_lt_zero day later
      rw [same] at later inside
      have short := evened_lt_of_daysBefore year (by omega)
      have reached : evened day ≤ evened (daysBefore (year + 1) - 1) := evened_mono (by omega)
      omega
    · exact within
  · rcases Nat.lt_or_ge day (daysBefore (evened day / 365 + 1)) with within | earlier
    · exact within
    · rcases Nat.lt_or_ge (evened day / 365 + 1) 400 with next | last
      · have long := evened_daysBefore _ next
        have reached := evened_mono earlier
        omega
      · have whole : evened day / 365 + 1 = 400 := by omega
        rw [whole] at earlier
        exact absurd inEra (Nat.not_lt.mpr earlier)

/-- The date of a day of a year that begins in March. -/
def ofMarch (year : Int) (day : Nat) : Date :=
  let month := (5 * day + 2) / 153
  let dayOfMonth := day - (153 * month + 2) / 5 + 1
  if month < 10 then ⟨year, month + 3, dayOfMonth⟩ else ⟨year + 1, month - 9, dayOfMonth⟩

/-- A day as a day of a year of an era. -/
theorem ofDays_split (days : Int) :
    ∃ (era : Int) (year day : Nat), year < 400 ∧ daysBefore year + day < daysBefore (year + 1) ∧
      days + 719468 = era * 146097 + daysBefore year + day ∧
      ofDays days = ofMarch (year + era * 400) day := by
  have split : Int.fdiv (days + 719468) 146097 = (days + 719468) / 146097 :=
    Int.fdiv_eq_ediv_of_nonneg _ (by decide)
  obtain ⟨dayOfEra, same⟩ : ∃ dayOfEra : Nat,
      days + 719468 - (days + 719468) / 146097 * 146097 = dayOfEra :=
    ⟨_, (Int.toNat_of_nonneg (by omega)).symm⟩
  have inEra : dayOfEra < 146097 := by omega
  obtain ⟨inside, begun, before⟩ := evened_bounds inEra
  have scaled : ((dayOfEra : Int) - dayOfEra / 1460 + dayOfEra / 36524 - dayOfEra / 146096) / 365 =
      (evened dayOfEra / 365 : Nat) := by
    rw [evened]
    omega
  generalize evened dayOfEra / 365 = year at inside begun before scaled
  refine ⟨(days + 719468) / 146097, year, dayOfEra - daysBefore year, inside, by omega,
    by omega, ?_⟩
  have dayOfYear : (dayOfEra : Int) - (365 * year + year / 4 - year / 100) =
      (dayOfEra - daysBefore year : Nat) := by
    rw [daysBefore] at begun ⊢
    omega
  rw [ofDays]
  simp only [split, same, scaled, dayOfYear]
  generalize dayOfEra - daysBefore year = day
  rw [ofMarch]
  have month : (5 * (day : Int) + 2) / 153 = ((5 * day + 2) / 153 : Nat) := by omega
  rw [month]
  by_cases spring : (5 * day + 2) / 153 < 10
  · rw [if_pos spring, if_pos (by omega)]
    congr 1
    omega
  · rw [if_neg spring, if_neg (by omega)]
    congr 1
    · omega
    · omega

theorem toDays_ofMarch {era : Int} {year day : Nat} (inside : year < 400)
    (within : daysBefore year + day < daysBefore (year + 1)) :
    (ofMarch (year + era * 400) day).toDays =
      era * 146097 + daysBefore year + day - 719468 := by
  have inEra : (year + era * 400 : Int).fdiv 400 = era := by
    rw [Int.fdiv_eq_ediv_of_nonneg _ (by decide)]
    omega
  rw [daysBefore] at within
  rw [daysBefore] at within
  rw [ofMarch, toDays, daysBefore]
  by_cases spring : (5 * day + 2) / 153 < 10
  · have late : ¬(5 * day + 2) / 153 + 3 ≤ 2 := by omega
    simp only [if_pos spring, if_neg late, inEra]
    omega
  · have early : (5 * day + 2) / 153 - 9 ≤ 2 := by omega
    have back : (year + era * 400 + 1 - 1 : Int) = year + era * 400 := by omega
    simp only [if_neg spring, if_pos early, back, inEra]
    omega

/-- A date gives back the day it was made from. -/
theorem toDays_ofDays (days : Int) : (ofDays days).toDays = days := by
  obtain ⟨era, year, day, inside, within, same, date⟩ := ofDays_split days
  rw [date, toDays_ofMarch inside within]
  omega

theorem isValid_ofMarch {era : Int} {year day : Nat} (inside : year < 400)
    (within : daysBefore year + day < daysBefore (year + 1)) :
    (ofMarch (year + era * 400) day).isValid = true := by
  rw [daysBefore, daysBefore] at within
  rw [ofMarch]
  by_cases spring : (5 * day + 2) / 153 < 10
  · simp only [if_pos spring, isValid, daysInMonth, Bool.and_eq_true, decide_eq_true_eq,
      Bool.or_eq_true]
    split_ifs <;> omega
  · simp only [if_neg spring, isValid, daysInMonth, isLeap, Bool.and_eq_true, decide_eq_true_eq,
      Bool.or_eq_true, beq_iff_eq, bne_iff_ne]
    split_ifs <;> omega

theorem isValid_ofDays (days : Int) : (ofDays days).isValid = true := by
  obtain ⟨era, year, day, inside, within, -, date⟩ := ofDays_split days
  rw [date]
  exact isValid_ofMarch inside within

theorem bounds_of_isValid {date : Date} (valid : date.isValid = true) :
    (1 ≤ date.month ∧ date.month ≤ 12) ∧ (1 ≤ date.day ∧ date.day ≤ 31) := by
  simp only [isValid, Bool.and_eq_true, decide_eq_true_eq] at valid
  obtain ⟨⟨months, first⟩, last⟩ := valid
  have most : daysInMonth date.year date.month ≤ 31 := by
    rw [daysInMonth]
    split_ifs <;> omega
  exact ⟨months, first, Nat.le_trans last most⟩

/-- The years of the days on which there are instants. -/
theorem year_ofDays {days : Int} (first : -96465292 ≤ days) (last : days ≤ 95026236) :
    -262143 ≤ (ofDays days).year ∧ (ofDays days).year ≤ 262142 := by
  obtain ⟨era, year, day, inside, within, same, date⟩ := ofDays_split days
  have inEra : daysBefore (year + 1) ≤ 146097 := by
    rw [daysBefore]
    omega
  have early : -657 < era := by omega
  have late : era < 656 := by omega
  have ends : -656 < era ∧ era < 655 ∨ era = -656 ∨ era = 655 := by omega
  rw [date, ofMarch]
  -- Only in the first era and in the last one it matters where in the era the year is.
  by_cases spring : (5 * day + 2) / 153 < 10
  · simp only [if_pos spring]
    rcases ends with between | rfl | rfl
    · omega
    · rcases Nat.lt_or_ge 256 year with after | before
      · omega
      · have most : daysBefore year ≤ daysBefore 256 := daysBefore_mono before
        have count : daysBefore 256 = 93502 := rfl
        omega
    · rcases Nat.lt_or_ge year 143 with before | after
      · omega
      · have least : daysBefore 143 ≤ daysBefore year := daysBefore_mono after
        have count : daysBefore 143 = 52229 := rfl
        omega
  · simp only [if_neg spring]
    rcases ends with between | rfl | rfl
    · omega
    · rcases Nat.lt_or_ge 255 year with after | before
      · omega
      · have most : daysBefore (year + 1) ≤ daysBefore 256 := daysBefore_mono (by omega)
        have count : daysBefore 256 = 93502 := rfl
        omega
    · rcases Nat.lt_or_ge year 142 with before | after
      · omega
      · have least : daysBefore 142 ≤ daysBefore year := daysBefore_mono after
        have count : daysBefore 142 = 51864 := rfl
        omega

end Resumable.Time.Date
