import Resumable.Json.Parse
import Resumable.Json.Written
import Resumable.Proofs.Digits

/-!
Numbers in front of other text. The reader of a number stops at the first character that cannot
belong to it, so a number that is read from a text of its own is read from the same characters in
front of a comma or a closing bracket. Whole numbers are always read back.
-/

namespace Resumable.Json.Reader

open Text (EndsDigits)

/-- What stands behind a value: the end of the text, or a mark of the container around it. -/
def Delimits (rest : List Char) : Prop :=
  ∀ char ∈ rest.head?, char = ',' ∨ char = ']' ∨ char = '\x7d'

theorem Delimits.nil : Delimits [] := fun _ member => nomatch member

theorem Delimits.cons {char : Char} (mark : char = ',' ∨ char = ']' ∨ char = '\x7d')
    (rest : List Char) : Delimits (char :: rest) := by
  intro first same
  rw [List.head?_cons, Option.mem_some_iff] at same
  exact same ▸ mark

theorem Delimits.endsDigits {rest : List Char} (delimits : Delimits rest) : EndsDigits rest := by
  intro char first
  rcases delimits char first with rfl | rfl | rfl <;> rfl

/-- A number that is read from characters is read from them in front of a mark as well. -/
def ReadsOn (reader : List Char → Reading) (chars : List Char) : Prop :=
  ∀ value, (reader chars).draft = .number value →
    ∃ after, (reader chars).after = some after ∧ after <:+ chars ∧
      ∀ rest, Delimits rest → reader (chars ++ rest) = ⟨.number value, some (after ++ rest)⟩

namespace ReadsOn

variable {reader inner : List Char → Reading} {chars : List Char}

theorem of_no_number (none : ∀ value, (reader chars).draft ≠ .number value) :
    ReadsOn reader chars :=
  fun value read => absurd read (none value)

theorem of_eq (here : reader chars = inner chars)
    (there : ∀ rest, Delimits rest → reader (chars ++ rest) = inner (chars ++ rest))
    (reads : ReadsOn inner chars) : ReadsOn reader chars := by
  intro value read
  rw [here] at read ⊢
  obtain ⟨after, found, suffix, goesOn⟩ := reads value read
  refine ⟨after, found, suffix, fun rest delimits => ?_⟩
  rw [there rest delimits]
  exact goesOn rest delimits

theorem cons {char : Char} (step : ∀ rest, reader (char :: rest) = inner rest)
    (reads : ReadsOn inner chars) : ReadsOn reader (char :: chars) := by
  intro value read
  rw [step] at read ⊢
  obtain ⟨after, found, suffix, goesOn⟩ := reads value read
  refine ⟨after, found, suffix.trans (List.suffix_cons char chars), fun rest delimits => ?_⟩
  rw [List.cons_append, step]
  exact goesOn rest delimits

theorem finished (literal : Literal) (chars : List Char) : ReadsOn (finished literal) chars := by
  intro value read
  rw [Reader.finished] at read ⊢
  cases found : literal.number? with
  | none =>
      rw [found] at read
      cases read
  | some number =>
      rw [found] at read
      cases read
      refine ⟨chars, rfl, List.suffix_refl _, fun rest _ => ?_⟩
      rw [Reader.finished, found]

theorem missing (chars : List Char) : ReadsOn digitsMissing chars := by
  apply of_no_number
  cases chars with
  | nil => nofun
  | cons char rest => nofun

/-- Digits are the same whether a mark follows or not. -/
theorem digits {next : List Char → List Char → Reading}
    (step : ∀ chars, reader chars = next (Text.spanDigits chars).1 (Text.spanDigits chars).2)
    (reads : ∀ digits chars, ReadsOn (next digits) chars) (chars : List Char) :
    ReadsOn reader chars := by
  intro value read
  rw [step] at read ⊢
  obtain ⟨after, found, suffix, goesOn⟩ := reads _ _ value read
  refine ⟨after, found, suffix.trans (Text.spanDigits_suffix chars), fun rest delimits => ?_⟩
  rw [step, Text.spanDigits_appended chars delimits.endsDigits]
  exact goesOn rest delimits

end ReadsOn

section

variable {negative : Bool} {integer fraction : List Char}

theorem exponentDigits_readsOn (below : Bool) (chars : List Char) :
    ReadsOn (exponentDigits negative integer fraction below) chars := by
  have next (digits chars : List Char) : ReadsOn (fun chars =>
      if digits.isEmpty then digitsMissing chars
      else finished ⟨negative, integer, fraction, some (below, digits)⟩ chars) chars := by
    by_cases empty : digits.isEmpty = true
    · exact .of_eq (if_pos empty) (fun _ _ => if_pos empty) (.missing chars)
    · exact .of_eq (if_neg empty) (fun _ _ => if_neg empty) (.finished _ chars)
  exact ReadsOn.digits (fun _ => rfl) next chars

theorem exponentPart_of_unsigned {chars : List Char} (plus : ∀ rest, chars ≠ '+' :: rest)
    (minus : ∀ rest, chars ≠ '-' :: rest) :
    exponentPart negative integer fraction chars =
      exponentDigits negative integer fraction false chars := by
  rw [exponentPart]
  · exact plus
  · exact minus

theorem exponentPart_readsOn (chars : List Char) :
    ReadsOn (exponentPart negative integer fraction) chars := by
  cases chars with
  | nil =>
      apply ReadsOn.of_no_number
      nofun
  | cons char rest =>
      by_cases plus : char = '+'
      · subst plus
        exact .cons (fun _ => rfl) (exponentDigits_readsOn false rest)
      · by_cases minus : char = '-'
        · subst minus
          exact .cons (fun _ => rfl) (exponentDigits_readsOn true rest)
        · have unsigned (rest : List Char) := @exponentPart_of_unsigned negative integer fraction
            (char :: rest) (by simp [plus]) (by simp [minus])
          exact .of_eq (unsigned rest) (fun more _ => unsigned (rest ++ more))
            (exponentDigits_readsOn false _)

theorem exponentOrEnd_of_end {chars : List Char} (small : ∀ rest, chars ≠ 'e' :: rest)
    (large : ∀ rest, chars ≠ 'E' :: rest) :
    exponentOrEnd negative integer fraction chars =
      finished ⟨negative, integer, fraction, none⟩ chars := by
  rw [exponentOrEnd]
  · exact small
  · exact large

theorem exponentOrEnd_readsOn (chars : List Char) :
    ReadsOn (exponentOrEnd negative integer fraction) chars := by
  cases chars with
  | nil =>
      refine .of_eq ?_ ?_ (ReadsOn.finished ⟨negative, integer, fraction, none⟩ [])
      · rfl
      · intro rest delimits
        apply exponentOrEnd_of_end
        · rintro more rfl
          simpa using delimits 'e' rfl
        · rintro more rfl
          simpa using delimits 'E' rfl
  | cons char rest =>
      by_cases small : char = 'e'
      · subst small
        exact .cons (fun _ => rfl) (exponentPart_readsOn rest)
      · by_cases large : char = 'E'
        · subst large
          exact .cons (fun _ => rfl) (exponentPart_readsOn rest)
        · have ended (rest : List Char) := @exponentOrEnd_of_end negative integer fraction
            (char :: rest) (by simp [small]) (by simp [large])
          exact .of_eq (ended rest) (fun more _ => ended (rest ++ more)) (.finished _ _)

theorem afterInteger_of_whole {chars : List Char} (point : ∀ rest, chars ≠ '.' :: rest) :
    afterInteger negative integer chars = exponentOrEnd negative integer [] chars := by
  rw [afterInteger]
  exact point

theorem afterInteger_readsOn (chars : List Char) :
    ReadsOn (afterInteger negative integer) chars := by
  cases chars with
  | nil =>
      refine .of_eq ?_ ?_ (@exponentOrEnd_readsOn negative integer [] [])
      · rfl
      · intro rest delimits
        apply afterInteger_of_whole
        rintro more rfl
        simpa using delimits '.' rfl
  | cons char rest =>
      by_cases point : char = '.'
      · subst point
        have next (fraction chars : List Char) : ReadsOn (fun chars =>
            if fraction.isEmpty then digitsMissing chars
            else exponentOrEnd negative integer fraction chars) chars := by
          by_cases empty : fraction.isEmpty = true
          · exact .of_eq (if_pos empty) (fun _ _ => if_pos empty) (.missing chars)
          · exact .of_eq (if_neg empty) (fun _ _ => if_neg empty) (exponentOrEnd_readsOn chars)
        exact .cons (fun _ => rfl) (ReadsOn.digits (fun _ => rfl) next rest)
      · have whole (rest : List Char) := @afterInteger_of_whole negative integer
          (char :: rest) (by simp [point])
        exact .of_eq (whole rest) (fun more _ => whole (rest ++ more)) (exponentOrEnd_readsOn _)

/-- What stands behind the first digits of a number; with a zero in front there is only one. -/
def behindDigits (negative : Bool) (digits rest : List Char) : Reading :=
  if digits.isEmpty then digitsMissing rest
  else if digits.head? = some '0' ∧ digits.tail ≠ [] then
    .stuck (flawAt .numberInvalid (digits.tail ++ rest))
  else afterInteger negative digits rest

theorem number_eq (chars : List Char) :
    number negative chars =
      behindDigits negative (Text.spanDigits chars).1 (Text.spanDigits chars).2 := by
  rw [number]
  generalize Text.spanDigits chars = found
  obtain ⟨digits, rest⟩ := found
  cases digits with
  | nil => rfl
  | cons char more =>
      by_cases zero : char = '0'
      · subst zero
        cases more with
        | nil => rfl
        | cons second more => rfl
      · simp [behindDigits, zero]

theorem behindDigits_readsOn (digits chars : List Char) :
    ReadsOn (behindDigits negative digits) chars := by
  by_cases empty : digits.isEmpty = true
  · exact .of_eq (if_pos empty) (fun _ _ => if_pos empty) (.missing chars)
  · by_cases zeros : digits.head? = some '0' ∧ digits.tail ≠ []
    · apply ReadsOn.of_no_number
      rw [behindDigits, if_neg empty, if_pos zeros]
      nofun
    · have whole (rest : List Char) :
          behindDigits negative digits rest = afterInteger negative digits rest := by
        rw [behindDigits, if_neg empty, if_neg zeros]
      exact .of_eq (whole chars) (fun _ _ => whole _) (afterInteger_readsOn chars)

theorem number_readsOn (chars : List Char) : ReadsOn (number negative) chars :=
  ReadsOn.digits number_eq behindDigits_readsOn chars

theorem number_of_digits {rest : List Char} (value : Nat) (ends : EndsDigits rest) :
    number negative (Text.digitsOf value ++ rest) =
      afterInteger negative (Text.digitsOf value) rest := by
  have found := Text.spanDigits_digits (Text.allDigits_digitsOf value) ends
  rcases Nat.eq_zero_or_pos value with rfl | positive
  · rw [number, found]
    rfl
  · have leading := Text.head?_digitsOf positive
    rw [number, found]
    simp only
    split
    · next empty => exact absurd empty (Text.digitsOf_ne_nil value)
    · rfl
    · next zero => exact absurd rfl (leading '0' (by rw [zero]; rfl))
    · rfl

theorem afterInteger_of_delimits {rest : List Char} (delimits : Delimits rest) :
    afterInteger negative integer rest = finished ⟨negative, integer, [], none⟩ rest := by
  cases rest with
  | nil => rfl
  | cons char rest =>
      rcases delimits char rfl with rfl | rfl | rfl <;> rfl

theorem number?_natural {value : Nat} (fits : value < 1 <<< 64) :
    Literal.number? ⟨false, Text.digitsOf value, [], none⟩ = some (.whole value) := by
  rw [Literal.number?, Text.natOfDigits_digitsOf]
  simp only [List.isEmpty_nil, Option.isNone_none, Bool.and_self, Bool.not_false, fits,
    decide_true, if_true]

theorem number?_negative {value : Nat} (positive : value ≠ 0) (fits : value ≤ 1 <<< 63) :
    Literal.number? ⟨true, Text.digitsOf value, [], none⟩ = some (.whole (-Int.ofNat value)) := by
  rw [Literal.number?, Text.natOfDigits_digitsOf]
  simp only [List.isEmpty_nil, Option.isNone_none, Bool.and_self, Bool.not_true, Bool.and_false,
    Bool.false_and, Bool.false_eq_true, ne_eq, positive, not_false_eq_true, fits, decide_true,
    if_true, if_false]

/-- A whole number without a sign is read back. -/
theorem number_natural {value : Nat} (fits : value < 1 <<< 64) {rest : List Char}
    (delimits : Delimits rest) :
    number false (Text.digitsOf value ++ rest) = ⟨.number (.whole value), some rest⟩ := by
  rw [number_of_digits value delimits.endsDigits, afterInteger_of_delimits delimits, finished,
    number?_natural fits]

/-- So is one behind its sign. -/
theorem number_negative {value : Nat} (positive : value ≠ 0) (fits : value ≤ 1 <<< 63)
    {rest : List Char} (delimits : Delimits rest) :
    number true (Text.digitsOf value ++ rest) =
      ⟨.number (.whole (-Int.ofNat value)), some rest⟩ := by
  rw [number_of_digits value delimits.endsDigits, afterInteger_of_delimits delimits, finished,
    number?_negative positive fits]

end

end Resumable.Json.Reader
