import Resumable.Binary64
import Resumable.Text.Digits

/-!
The shortest decimal text of a binary number: the fewest digits that read back as the number, of
those the nearest to it, of two equally near the one with the even last digit.
-/

namespace Resumable

/-- The value is `digits`, read as a whole number without trailing zeros, times `10 ^ exponent`. -/
structure Decimal where
  digits : Nat
  exponent : Int
  deriving DecidableEq

namespace Decimal

def leadingPlace (num den : Nat) : Int :=
  if den ≤ num then Int.ofNat ((Text.digitsOf (num / den)).length - 1)
  else -Int.ofNat (Text.digitsOf ((den + num - 1) / num - 1)).length

/-- A positive number and the ends of the interval of reals that round to it, over one divisor. -/
structure Rounding where
  low : Nat
  value : Nat
  high : Nat
  divisor : Nat
  closed : Bool

def Rounding.ofFinite (number : Binary64.Finite) : Rounding :=
  let significand := number.significand
  let scale := number.scale - 2
  let up := 1 <<< scale.toNat
  -- Below a power of two the representable numbers lie half as far apart.
  let below := if significand = 1 <<< 52 && 1 <<< 53 ≤ number.rank then 1 else 2
  { low := (4 * significand - below) * up
    value := 4 * significand * up
    high := (4 * significand + 2) * up
    divisor := 1 <<< (-scale).toNat
    closed := significand % 2 = 0 }

def Rounding.admits (rounding : Rounding) (num den : Nat) : Bool :=
  let position := num * rounding.divisor
  let low := rounding.low * den
  let high := rounding.high * den
  if rounding.closed then low ≤ position && position ≤ high
  else low < position && position < high

/-- The point nearest to the value on the grid of multiples of `10 ^ place`, if it rounds to it. -/
def Rounding.onGrid (rounding : Rounding) (place : Int) : Option Nat :=
  let unit := Nat.pow 10 place.toNat
  let parts := Nat.pow 10 (-place).toNat
  let num := rounding.value * parts
  let den := rounding.divisor * unit
  let floor := num / den
  let admitted (point : Nat) : Bool := rounding.admits (point * unit) parts
  match admitted floor && floor != 0, admitted (floor + 1) with
  | true, true => some (Binary64.roundHalfEven num den)
  | true, false => some floor
  | false, true => some (floor + 1)
  | false, false => none

def dropTrailingZeros (digits : Nat) (exponent : Int) : Nat → Decimal
  | 0 => ⟨digits, exponent⟩
  | steps + 1 =>
      if digits % 10 = 0 then dropTrailingZeros (digits / 10) (exponent + 1) steps
      else ⟨digits, exponent⟩

/-- Seventeen digits tell any two numbers apart, so the search always ends at a grid point. -/
def shortest (number : Binary64.Finite) : Decimal :=
  if number.rank = 0 then ⟨0, 0⟩
  else
    let rounding := Rounding.ofFinite number
    let leading := leadingPlace rounding.value rounding.divisor
    let found := (List.range 17).findSome? fun count =>
      (rounding.onGrid (leading - Int.ofNat count)).map (·, leading - Int.ofNat count)
    match found with
    | some (digits, place) => dropTrailingZeros digits place 17
    | none => ⟨0, 0⟩

structure Layout where
  /-- The exponents of a leading digit that are written by position, from the first to below the
  second. -/
  positional : Int × Int
  pointAlways : Bool
  mark : Char
  plusSign : Bool

def Layout.text (layout : Layout) (decimal : Decimal) : List Char :=
  let digits := Text.digitsOf decimal.digits
  let leading := Int.ofNat digits.length - 1 + decimal.exponent
  if decimal.digits = 0 then if layout.pointAlways then ['0', '.', '0'] else ['0']
  else if layout.positional.1 ≤ leading && leading < layout.positional.2 then
    if 0 ≤ decimal.exponent then
      digits ++ List.replicate decimal.exponent.toNat '0' ++
        (if layout.pointAlways then ['.', '0'] else [])
    else if 0 ≤ leading then
      digits.take (leading + 1).toNat ++ '.' :: digits.drop (leading + 1).toNat
    else '0' :: '.' :: List.replicate (-leading - 1).toNat '0' ++ digits
  else
    let sign := if leading < 0 then ['-'] else if layout.plusSign then ['+'] else []
    digits.take 1 ++ (if digits.length = 1 then [] else '.' :: digits.drop 1) ++
      layout.mark :: sign ++ Text.digitsOf leading.natAbs

end Decimal

end Resumable
