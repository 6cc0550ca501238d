import Resumable.Json.Reader.Basic
import Resumable.Text.Digits

/-!
Reading numbers. A literal without fraction and exponent is a whole number if it fits; any other is
a binary number, scaled by a power of ten from at most 64 bits of its digits.
-/

namespace Resumable.Json.Reader

structure Literal where
  negative : Bool
  integer : List Char
  fraction : List Char
  exponent : Option (Bool × List Char)

/-- Appends digits to a significand as long as it fits 64 bits, and tells how many are left over. -/
def appendDigits (significand : Nat) : List Char → Nat × Nat
  | [] => (significand, 0)
  | char :: rest =>
      let grown := significand * 10 + Text.natOfDigits [char]
      if grown < 1 <<< 64 then appendDigits grown rest else (significand, rest.length + 1)

/-- The binary number nearest to a power of ten; the exponents in use, up to 308, have one. -/
def tenPower (exponent : Nat) : Binary64.Finite :=
  (Binary64.ofNat (Nat.pow 10 exponent)).finite?.getD (.zero false)

/-- Scales by a power of ten, in steps where that has no binary number of its own. There is no
result when it is too large. -/
def scaleByTen (number : Binary64.Finite) (exponent : Int) : Nat → Option Binary64.Finite
  | 0 => some (.zero false)
  | steps + 1 =>
      if exponent.natAbs ≤ 308 then
        let power := tenPower exponent.natAbs
        if 0 ≤ exponent then ((Binary64.finite number).mul (.finite power)).finite?
        else (number.div power).finite?
      else if number.rank = 0 then some number
      else if 0 ≤ exponent then none
      else (number.div (tenPower 308)).finite?.bind fun smaller =>
        scaleByTen smaller (exponent + 308) steps

/-- The binary number a literal stands for. Digits of the integer part beyond 64 bits count only as
places, digits of the fraction beyond them not at all. -/
def Literal.real? (literal : Literal) : Option Binary64.Finite :=
  let (whole, dropped) := appendDigits 0 literal.integer
  let (significand, ignored) := appendDigits whole literal.fraction
  let places := Int.ofNat dropped - Int.ofNat (literal.fraction.length - ignored)
  let scaled (exponent : Int) : Option Binary64.Finite :=
    (Binary64.ofNat significand).finite?.bind fun start => scaleByTen start exponent 8
  let magnitude :=
    match literal.exponent with
    | none => scaled places
    | some (below, digits) =>
        let written := Text.natOfDigits digits
        if written < 1 <<< 31 then
          scaled (if below then places - written else places + written)
        else if significand = 0 || below then some (.zero false)
        else none
  magnitude.map fun found => { found with negative := literal.negative }

def Literal.number? (literal : Literal) : Option Number :=
  let magnitude := Text.natOfDigits literal.integer
  let isWhole := literal.fraction.isEmpty && literal.exponent.isNone
  if isWhole && !literal.negative && magnitude < 1 <<< 64 then some (.whole magnitude)
  else if isWhole && literal.negative && magnitude ≠ 0 && magnitude ≤ 1 <<< 63 then
    some (.whole (-Int.ofNat magnitude))
  else literal.real?.map .real

/-- Where digits must follow: a number that is cut short is flawed for every decoder, but to one
that wants it the text ends early. -/
def digitsMissing (chars : List Char) : Reading :=
  match chars with
  | [] => ⟨.fault (flawAt .endInValue []) (some (flawAt .numberInvalid [])), none⟩
  | _ :: rest => .stuck (flawBefore .numberInvalid rest)

def finished (literal : Literal) (rest : List Char) : Reading :=
  match literal.number? with
  | some value => ⟨.number value, some rest⟩
  | none => ⟨.fault (flawBefore .numberTooLarge rest) none, some rest⟩

def exponentDigits (negative : Bool) (integer fraction : List Char) (below : Bool)
    (chars : List Char) : Reading :=
  let (digits, rest) := Text.spanDigits chars
  if digits.isEmpty then digitsMissing rest
  else finished ⟨negative, integer, fraction, some (below, digits)⟩ rest

def exponentPart (negative : Bool) (integer fraction chars : List Char) : Reading :=
  match chars with
  | '+' :: rest => exponentDigits negative integer fraction false rest
  | '-' :: rest => exponentDigits negative integer fraction true rest
  | _ => exponentDigits negative integer fraction false chars

/-- What may follow the digits of a number: an exponent, or nothing more of it. -/
def exponentOrEnd (negative : Bool) (integer fraction chars : List Char) : Reading :=
  match chars with
  | 'e' :: more | 'E' :: more => exponentPart negative integer fraction more
  | _ => finished ⟨negative, integer, fraction, none⟩ chars

def afterInteger (negative : Bool) (integer chars : List Char) : Reading :=
  match chars with
  | '.' :: rest =>
      let (fraction, after) := Text.spanDigits rest
      if fraction.isEmpty then digitsMissing after
      else exponentOrEnd negative integer fraction after
  | _ => exponentOrEnd negative integer [] chars

def number (negative : Bool) (chars : List Char) : Reading :=
  let (digits, rest) := Text.spanDigits chars
  match digits with
  | [] => digitsMissing rest
  | '0' :: [] => afterInteger negative digits rest
  | '0' :: more => .stuck (flawAt .numberInvalid (more ++ rest))
  | _ => afterInteger negative digits rest

end Resumable.Json.Reader
