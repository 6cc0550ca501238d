import Mathlib.Order.Basic
import Resumable.Proofs.Digits
import Resumable.Proofs.Except
import Resumable.Proofs.Time.Calendar
import Resumable.Time.Rfc3339

/-!
The text of an instant is read back as that instant. Each part of the text is found again by the
step that reads it, because the mark behind it is no digit.
-/

namespace Resumable.Time

open Text (AllDigits EndsDigits)

section

variable {width value : Nat}

theorem allDigits_padded : AllDigits (padded width value) := by
  intro char member
  rcases List.mem_append.mp member with zero | digit
  · rw [List.eq_of_mem_replicate zero]
    rfl
  · exact Text.isDigit_of_mem_digitsOf digit

theorem natOfDigits_padded : Text.natOfDigits (padded width value) = value := by
  rw [Text.natOfDigits, padded, Nat.ofDigitChars_append, Nat.ofDigitChars_replicate_zero,
    Nat.mul_zero]
  exact Text.natOfDigits_digitsOf value

theorem padded_ne_nil : padded width value ≠ [] :=
  List.append_ne_nil_of_right_ne_nil _ (Text.digitsOf_ne_nil value)

theorem length_padded (wide : 0 < width) (fits : value < Nat.pow 10 width) :
    (padded width value).length = width := by
  have short : (Text.digitsOf value).length ≤ width :=
    (Nat.length_toDigits_le_iff (by decide) wide).mpr fits
  rw [padded, List.length_append, List.length_replicate]
  omega

/-- A padded number is read as its value, whatever it was padded to. -/
theorem scanNumber_padded {most : Option Nat} {rest : List Char}
    (room : ∀ count ∈ most, (padded width value).length ≤ count) (fits : value < 1 <<< 63)
    (ends : EndsDigits rest) :
    scanNumber most (padded width value ++ rest) = .ok (value, rest) := by
  have filled : padded width value ++ rest ≠ [] :=
    List.append_ne_nil_of_left_ne_nil padded_ne_nil rest
  cases most with
  | none =>
      have found := Text.takeWhile_digits (@allDigits_padded width value) ends
      simp only [scanNumber, found, natOfDigits_padded, List.isEmpty_iff, filled, padded_ne_nil,
        if_false, if_neg (Nat.not_le.mpr fits), List.drop_left]
  | some count =>
      have found : ((padded width value ++ rest).take count).takeWhile Char.isDigit =
          padded width value := by
        rw [List.take_append, List.take_of_length_le (room count rfl)]
        exact Text.takeWhile_digits allDigits_padded (ends.take _)
      simp only [scanNumber, found, natOfDigits_padded, List.isEmpty_iff, filled, padded_ne_nil,
        if_false, if_neg (Nat.not_le.mpr fits), List.drop_left]

theorem scanField_padded {low high : Nat} {rest : List Char} (least : low ≤ value)
    (most : value ≤ high) (fits : value < 100) (ends : EndsDigits rest) :
    scanField low high (padded 2 value ++ rest) = .ok (value, rest) := by
  have room : ∀ count ∈ some 2, (padded 2 value).length ≤ count := by
    rintro _ ⟨⟩
    exact Nat.le_of_eq (length_padded Nat.two_pos fits)
  have scanned := scanNumber_padded room (Nat.lt_trans fits (by decide)) ends
  have inside : (decide (low ≤ value) && decide (value ≤ high)) = true := by
    simp [least, most]
  rw [scanField, Text.dropBlanks_digits allDigits_padded padded_ne_nil, scanned]
  exact if_pos inside

end

theorem scanMark_cons {mark : Char} (visible : Text.isBlank mark = false) (rest : List Char) :
    scanMark mark (mark :: rest) = .ok rest := by
  rw [scanMark, Text.dropBlanks_cons visible]
  exact if_pos rfl

-- The bounds of a year are compared for a name, not for the number that was read: to evaluate the
-- comparison of a number with a bound that large is out of the question.
theorem yearInBounds {year : Int} (least : -262143 ≤ year) (most : year ≤ 262142)
    (rest : List Char) :
    (do
      let (year, rest) ← (pure (year, rest) : Except ParseError (Int × List Char))
      if -Int.ofNat (1 <<< 31) ≤ year && year < Int.ofNat (1 <<< 31) then .ok (year, rest)
      else .error .outOfRange) = .ok (year, rest) := by
  have inside : (decide (-Int.ofNat (1 <<< 31) ≤ year) && decide (year < Int.ofNat (1 <<< 31))) =
      true := by
    simp only [Bool.and_eq_true, decide_eq_true_eq, Int.ofNat_eq_natCast]
    omega
  exact if_pos inside

section

variable {year : Int} {chars rest : List Char}

theorem scanYear_minus (least : -262143 ≤ year) (most : year ≤ 262142) (before : year ≤ 0)
    (scanned : scanNumber none chars = .ok (year.natAbs, rest)) :
    scanYear ('-' :: chars) = .ok (year, rest) := by
  have same : -Int.ofNat year.natAbs = year := by
    rw [Int.ofNat_eq_natCast]
    omega
  have shown : Text.dropBlanks ('-' :: chars) = '-' :: chars := Text.dropBlanks_cons rfl chars
  rw [scanYear]
  split
  · next found =>
      obtain rfl := (List.cons.inj (shown.symm.trans found)).2
      rw [scanned, ok_bind]
      split
      next pair =>
        cases pair
        rw [same]
        exact yearInBounds least most rest
  · next found =>
      rw [shown] at found
      cases found
  · next unsigned _ => exact absurd shown (unsigned chars)

theorem scanYear_plus (least : -262143 ≤ year) (most : year ≤ 262142) (after : 0 ≤ year)
    (scanned : scanNumber none chars = .ok (year.natAbs, rest)) :
    scanYear ('+' :: chars) = .ok (year, rest) := by
  have same : Int.ofNat year.natAbs = year := Int.natAbs_of_nonneg after
  have shown : Text.dropBlanks ('+' :: chars) = '+' :: chars := Text.dropBlanks_cons rfl chars
  rw [scanYear]
  split
  · next found =>
      rw [shown] at found
      cases found
  · next found =>
      obtain rfl := (List.cons.inj (shown.symm.trans found)).2
      rw [scanned, ok_bind]
      split
      next pair =>
        cases pair
        rw [same]
        exact yearInBounds least most rest
  · next unsigned => exact absurd shown (unsigned chars)

theorem scanYear_plain (least : -262143 ≤ year) (most : year ≤ 262142) (after : 0 ≤ year)
    (shown : Text.dropBlanks chars = chars) (unsigned : ∀ char ∈ chars.head?, char.isDigit = true)
    (scanned : scanNumber (some 4) chars = .ok (year.natAbs, rest)) :
    scanYear chars = .ok (year, rest) := by
  have same : Int.ofNat year.natAbs = year := Int.natAbs_of_nonneg after
  rw [scanYear]
  split
  · next found =>
      rw [shown] at found
      cases unsigned '-' (by rw [found]; rfl)
  · next found =>
      rw [shown] at found
      cases unsigned '+' (by rw [found]; rfl)
  · rw [shown, scanned, ok_bind]
    split
    next pair =>
      cases pair
      rw [same]
      exact yearInBounds least most rest

theorem scanYear_text (least : -262143 ≤ year) (most : year ≤ 262142) (ends : EndsDigits rest) :
    scanYear (yearText year ++ rest) = .ok (year, rest) := by
  have fits : year.natAbs < 1 <<< 63 := by omega
  have signed : scanNumber none (padded 4 year.natAbs ++ rest) = .ok (year.natAbs, rest) :=
    scanNumber_padded (by simp) fits ends
  rw [yearText]
  rcases Int.lt_or_le year 0 with before | after
  · rw [if_pos before]
    exact scanYear_minus least most (Int.le_of_lt before) signed
  · rw [if_neg (Int.not_lt.mpr after)]
    by_cases long : 9999 < year
    · rw [if_pos long]
      exact scanYear_plus least most after signed
    · have room : ∀ count ∈ some 4, (padded 4 year.natAbs).length ≤ count := by
        rintro _ ⟨⟩
        exact Nat.le_of_eq (length_padded (by decide) (show year.natAbs < 10000 by omega))
      rw [if_neg long]
      apply scanYear_plain least most after
      · exact Text.dropBlanks_digits allDigits_padded padded_ne_nil rest
      · exact Text.head?_digits allDigits_padded padded_ne_nil rest
      · exact scanNumber_padded room fits ends

end

/-- Some leading digits of nine, the others being zeros. -/
theorem scanFraction_padded {width value nanos : Nat} {rest : List Char} (wide : 0 < width)
    (most : width ≤ 9) (fits : value < Nat.pow 10 width)
    (scale : value * Nat.pow 10 (9 - width) = nanos) (ends : EndsDigits rest) :
    scanFraction ('.' :: padded width value ++ rest) = .ok (nanos, rest) := by
  have room : ∀ count ∈ some 9, (padded width value).length ≤ count := by
    rintro _ ⟨⟩
    exact Nat.le_trans (Nat.le_of_eq (length_padded wide fits)) most
  have small : value < 1 <<< 63 := by
    have bound : Nat.pow 10 width ≤ 1000000000 := Nat.pow_le_pow_right (by decide) most
    omega
  have scanned := scanNumber_padded room small ends
  have count : (padded width value ++ rest).length - rest.length = width := by
    rw [List.length_append, length_padded wide fits, Nat.add_sub_cancel]
  have dropped : rest.dropWhile Char.isDigit = rest :=
    @Text.dropWhile_digits [] rest (List.forall_mem_nil _) ends
  rw [List.cons_append, scanFraction, scanned, ok_bind]
  simp only [count, dropped, scale]

theorem scanFraction_text {nanos : Nat} (below : nanos < 1000000000) :
    scanFraction (fractionText nanos ++ ['Z']) = .ok (nanos, ['Z']) := by
  have ends : EndsDigits ['Z'] := .cons rfl []
  rw [fractionText]
  by_cases whole : nanos = 0
  · rw [if_pos whole, whole]
    rfl
  rw [if_neg whole]
  by_cases milli : nanos % 1000000 = 0
  · have fits : nanos / 1000000 < 1000 := by omega
    have scale : nanos / 1000000 * 1000000 = nanos := by omega
    rw [if_pos milli]
    exact scanFraction_padded (by decide) (by decide) fits scale ends
  rw [if_neg milli]
  by_cases micro : nanos % 1000 = 0
  · have fits : nanos / 1000 < 1000000 := by omega
    have scale : nanos / 1000 * 1000 = nanos := by omega
    rw [if_pos micro]
    exact scanFraction_padded (by decide) (by decide) fits scale ends
  rw [if_neg micro]
  exact scanFraction_padded (by decide) (by decide) below (Nat.mul_one nanos) ends

/-! An instant as a date and the time of a clock. -/

theorem of?_self (instant : Instant) :
    Instant.of? instant.seconds instant.nanos = some instant :=
  dif_pos instant.representable

theorem day_eq (instant : Instant) :
    Int.fdiv instant.seconds 86400 = instant.seconds / 86400 :=
  Int.fdiv_eq_ediv_of_nonneg _ (by decide)

theorem clock_eq (instant : Instant) :
    Int.fmod instant.seconds 86400 = instant.seconds % 86400 :=
  Int.fmod_eq_emod_of_nonneg _ (by decide)

theorem year_bounds (instant : Instant) :
    -262143 ≤ (Date.ofDays (Int.fdiv instant.seconds 86400)).year ∧
      (Date.ofDays (Int.fdiv instant.seconds 86400)).year ≤ 262142 := by
  obtain ⟨first, last, -, -⟩ := instant.representable
  rw [Instant.firstSecond] at first
  rw [Instant.lastSecond] at last
  rw [day_eq]
  exact Date.year_ofDays (by omega) (by omega)

theorem clock_lt (instant : Instant) : (Int.fmod instant.seconds 86400).toNat < 86400 := by
  rw [clock_eq]
  omega

-- A leap second is written as the sixtieth, and only then is there one.
theorem leaps_iff (instant : Instant) :
    (Int.fmod instant.seconds 86400).toNat % 60 + instant.nanos / 1000000000 = 60 ↔
      1000000000 ≤ instant.nanos := by
  obtain ⟨-, -, below, leap⟩ := instant.representable
  rw [clock_eq]
  omega

theorem second_le (instant : Instant) :
    (Int.fmod instant.seconds 86400).toNat % 60 + instant.nanos / 1000000000 ≤ 60 := by
  have leaps := leaps_iff instant
  omega

theorem min_second (instant : Instant) :
    Nat.min ((Int.fmod instant.seconds 86400).toNat % 60 + instant.nanos / 1000000000) 59 =
      (Int.fmod instant.seconds 86400).toNat % 60 := by
  obtain ⟨-, -, below, leap⟩ := instant.representable
  rw [clock_eq]
  change min ((instant.seconds % 86400).toNat % 60 + instant.nanos / 1000000000) 59 =
    (instant.seconds % 86400).toNat % 60
  omega

/-- The date and the clock time of an instant give it back. -/
theorem build_instant (instant : Instant) :
    build (Date.ofDays (Int.fdiv instant.seconds 86400))
      ((Int.fmod instant.seconds 86400).toNat / 3600)
      ((Int.fmod instant.seconds 86400).toNat / 60 % 60)
      ((Int.fmod instant.seconds 86400).toNat % 60 + instant.nanos / 1000000000)
      (instant.nanos % 1000000000) 0 = .ok instant := by
  have leaps := leaps_iff instant
  have admitted : (!(Date.ofDays (Int.fdiv instant.seconds 86400)).isValid ||
      decide ((Date.ofDays (Int.fdiv instant.seconds 86400)).year < -262143) ||
      decide (262142 < (Date.ofDays (Int.fdiv instant.seconds 86400)).year)) = false := by
    simp [Date.isValid_ofDays, year_bounds]
  rw [build]
  simp only [admitted, Date.toDays_ofDays]
  rw [if_neg Bool.false_ne_true, if_neg (by decide)]
  have wall : Int.fdiv instant.seconds 86400 * 86400 +
      Int.ofNat ((Int.fmod instant.seconds 86400).toNat / 3600 * 3600 +
        (Int.fmod instant.seconds 86400).toNat / 60 % 60 * 60 +
        Nat.min ((Int.fmod instant.seconds 86400).toNat % 60 + instant.nanos / 1000000000) 59) -
        0 = instant.seconds := by
    rw [min_second, day_eq, clock_eq, Int.ofNat_eq_natCast]
    omega
  have nanos : (instant.nanos % 1000000000 +
      if (Int.fmod instant.seconds 86400).toNat % 60 + instant.nanos / 1000000000 = 60
        then 1000000000 else 0) = instant.nanos := by
    obtain ⟨-, -, below, -⟩ := instant.representable
    rw [if_congr leaps rfl rfl]
    split <;> omega
  rw [wall, nanos, of?_self]

theorem endsDigits_fraction (nanos : Nat) : EndsDigits (fractionText nanos ++ ['Z']) := by
  rw [fractionText]
  split
  · exact .cons rfl []
  · split
    · exact .cons rfl _
    · split
      · exact .cons rfl _
      · exact .cons rfl _

/-- An instant is read back from its text. -/
theorem parse_text (instant : Instant) : parse instant.text = .ok instant := by
  have built := build_instant instant
  have separator (rest : List Char) : scanSeparator ('T' :: rest) = .ok rest := rfl
  have zone : scanZone ['Z'] = .ok (0, []) := rfl
  have years := year_bounds instant
  obtain ⟨months, days⟩ := Date.bounds_of_isValid
    (Date.isValid_ofDays (Int.fdiv instant.seconds 86400))
  have clock := clock_lt instant
  have second := second_le instant
  rw [parse, Instant.text, String.toList_ofList, dateText, clockText]
  simp only [List.append_assoc, List.cons_append]
  rw [scanYear_text years.1 years.2 (.cons rfl _), ok_bind]
  simp only
  rw [scanMark_cons rfl, ok_bind,
    scanField_padded months.1 months.2 (by omega) (.cons rfl _), ok_bind]
  simp only
  rw [scanMark_cons rfl, ok_bind, scanField_padded days.1 days.2 (by omega) (.cons rfl _), ok_bind]
  simp only
  rw [separator, ok_bind,
    scanField_padded (by omega) (by omega) (by omega) (.cons rfl _), ok_bind]
  simp only
  rw [scanMark_cons rfl, ok_bind,
    scanField_padded (by omega) (by omega) (by omega) (.cons rfl _), ok_bind]
  simp only
  rw [scanMark_cons rfl, ok_bind,
    scanField_padded (Nat.zero_le _) second (by omega) (endsDigits_fraction _), ok_bind]
  simp only
  rw [scanFraction_text (Nat.mod_lt _ (by decide)), ok_bind]
  simp only
  rw [Text.dropBlanks_cons rfl, zone, ok_bind]
  exact built

end Resumable.Time
