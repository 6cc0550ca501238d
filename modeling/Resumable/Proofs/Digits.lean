import Mathlib.Data.List.Basic
import Resumable.Text.Blank
import Resumable.Text.Digits

/-!
Digits at the front of a text. They are found as they were written if what follows them does not
go on with a digit.
-/

namespace Resumable.Text

/-- Digits in front of the text end there. -/
def EndsDigits (rest : List Char) : Prop := ∀ char ∈ rest.head?, char.isDigit = false

theorem EndsDigits.nil : EndsDigits [] := fun _ member => nomatch member

theorem EndsDigits.cons {char : Char} (other : char.isDigit = false) (rest : List Char) :
    EndsDigits (char :: rest) := by
  intro first same
  rw [List.head?_cons, Option.mem_some_iff] at same
  exact same ▸ other

theorem EndsDigits.take {rest : List Char} (ends : EndsDigits rest) (count : Nat) :
    EndsDigits (rest.take count) := by
  cases count with
  | zero => exact .nil
  | succ more =>
      intro char first
      rw [List.head?_take, if_neg (Nat.succ_ne_zero more)] at first
      exact ends char first

def AllDigits (digits : List Char) : Prop := ∀ char ∈ digits, char.isDigit = true

theorem allDigits_digitsOf (value : Nat) : AllDigits (digitsOf value) :=
  fun _ member => isDigit_of_mem_digitsOf member

theorem digitsOf_ne_nil (value : Nat) : digitsOf value ≠ [] := Nat.toDigits_ne_nil

/-- Only zero has a leading zero. -/
theorem head?_digitsOf {value : Nat} (positive : 0 < value) :
    ∀ char ∈ (digitsOf value).head?, char ≠ '0' := by
  induction value using Nat.strongRecOn with
  | ind value ih =>
      rcases Nat.lt_or_ge value 10 with small | large
      · rw [digitsOf, Nat.toDigits_of_lt_base small]
        rintro _ ⟨⟩ zero
        have count : ∀ digit < 10, 0 < digit → Nat.digitChar digit ≠ '0' := by decide
        exact count value small positive zero
      · have tens : (Nat.toDigits 10 (value / 10)).head?.isSome = true := by
          simp [Nat.toDigits_ne_nil]
        rw [digitsOf, Nat.toDigits_of_base_le (by decide) large, List.head?_append,
          Option.or_of_isSome tens]
        exact ih (value / 10) (by omega) (by omega)

theorem head?_digits {digits : List Char} (all : AllDigits digits) (some : digits ≠ [])
    (rest : List Char) : ∀ char ∈ (digits ++ rest).head?, char.isDigit = true := by
  cases digits with
  | nil => exact absurd rfl some
  | cons first more =>
      intro char same
      rw [List.cons_append, List.head?_cons, Option.mem_some_iff] at same
      exact same ▸ all first List.mem_cons_self

theorem takeWhile_digits {digits rest : List Char} (all : AllDigits digits)
    (ends : EndsDigits rest) : (digits ++ rest).takeWhile Char.isDigit = digits := by
  rw [List.takeWhile_append_of_pos all]
  cases rest with
  | nil => simp
  | cons char rest => simp [ends char rfl]

theorem dropWhile_digits {digits rest : List Char} (all : AllDigits digits)
    (ends : EndsDigits rest) : (digits ++ rest).dropWhile Char.isDigit = rest := by
  rw [List.dropWhile_append_of_pos all]
  cases rest with
  | nil => rfl
  | cons char rest => simp [ends char rfl]

theorem spanDigits_digits {digits rest : List Char} (all : AllDigits digits)
    (ends : EndsDigits rest) : spanDigits (digits ++ rest) = (digits, rest) := by
  rw [spanDigits, takeWhile_digits all ends, dropWhile_digits all ends]

theorem spanDigits_appended (chars : List Char) {rest : List Char} (ends : EndsDigits rest) :
    spanDigits (chars ++ rest) = ((spanDigits chars).1, (spanDigits chars).2 ++ rest) := by
  induction chars with
  | nil => exact spanDigits_digits (List.forall_mem_nil _) ends
  | cons char more ih =>
      simp only [spanDigits, Prod.mk.injEq] at ih ⊢
      rw [List.cons_append]
      by_cases digit : char.isDigit = true
      · simp [digit, ih]
      · simp [digit]

/-- Every text is some digits and a rest that does not go on with one. -/
theorem exists_digits (chars : List Char) :
    ∃ digits rest, digits ++ rest = chars ∧ AllDigits digits ∧ EndsDigits rest := by
  refine ⟨_, _, spanDigits_append chars, List.all_eq_true.mp List.all_takeWhile, ?_⟩
  intro char first
  have ends := List.head?_dropWhile_not Char.isDigit chars
  rw [show (chars.dropWhile Char.isDigit).head? = some char from first] at ends
  exact ends

theorem spanDigits_suffix (chars : List Char) : (spanDigits chars).2 <:+ chars :=
  List.dropWhile_suffix _

theorem not_isBlank_of_isDigit {char : Char} (digit : char.isDigit = true) :
    isBlank char = false := by
  simp only [Char.isDigit, Bool.and_eq_true, decide_eq_true_eq] at digit
  obtain ⟨low, high⟩ := digit
  have least : 48 ≤ char.toNat := low
  have most : char.toNat ≤ 57 := high
  simp only [isBlank, Bool.or_eq_false_iff, Bool.and_eq_false_iff, decide_eq_false_iff_not,
    beq_eq_false_iff_ne]
  omega

theorem toLower_of_isDigit {char : Char} (digit : char.isDigit = true) :
    char.toLower = char := by
  simp only [Char.isDigit, Bool.and_eq_true, decide_eq_true_eq] at digit
  have small : ¬ char.val ≥ 'A'.val := by
    intro large
    exact absurd (UInt32.le_trans large digit.2) (by decide)
  exact dif_neg fun capital => small capital.1

theorem dropBlanks_cons {char : Char} (visible : isBlank char = false) (rest : List Char) :
    dropBlanks (char :: rest) = char :: rest := by
  rw [dropBlanks, List.dropWhile_cons_of_neg (by simp [visible])]

theorem dropBlanks_digits {digits : List Char} (all : AllDigits digits) (some : digits ≠ [])
    (rest : List Char) : dropBlanks (digits ++ rest) = digits ++ rest := by
  cases digits with
  | nil => exact absurd rfl some
  | cons char more =>
      exact dropBlanks_cons (not_isBlank_of_isDigit (all char List.mem_cons_self)) (more ++ rest)

end Resumable.Text
