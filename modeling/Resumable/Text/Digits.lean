/-!
Decimal digits of natural numbers, and back.
-/

namespace Resumable.Text

/-- Most significant first, without leading zeros. -/
def digitsOf (value : Nat) : List Char := Nat.toDigits 10 value

def natOfDigits (digits : List Char) : Nat := Nat.ofDigitChars 10 digits 0

theorem natOfDigits_digitsOf (value : Nat) : natOfDigits (digitsOf value) = value :=
  Nat.ofDigitChars_ten_toDigits

theorem isDigit_of_mem_digitsOf {value : Nat} {char : Char} (member : char ∈ digitsOf value) :
    char.isDigit = true :=
  Nat.isDigit_of_mem_toDigits (by decide) (by decide) member

/-- The digits at the front of a text, and what follows them. -/
def spanDigits (chars : List Char) : List Char × List Char :=
  (chars.takeWhile Char.isDigit, chars.dropWhile Char.isDigit)

theorem spanDigits_append (chars : List Char) :
    (spanDigits chars).1 ++ (spanDigits chars).2 = chars :=
  List.takeWhile_append_dropWhile

end Resumable.Text
