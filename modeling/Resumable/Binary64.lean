/-!
Binary floating point numbers of 64 bits, as exact values. A finite number is a sign and a rank:
the ranks count the representable magnitudes upward from zero, so that comparing magnitudes is
comparing ranks and a carry out of the significand needs no case of its own.
-/

namespace Resumable

namespace Binary64

/-- One more than the rank of the largest finite magnitude. -/
def rankBound : Nat := 2047 <<< 52

structure Finite where
  negative : Bool
  rank : Nat
  rank_lt : rank < rankBound
  deriving DecidableEq

namespace Finite

/-- The magnitude is `significand * 2 ^ scale`. -/
def significand (number : Finite) : Nat :=
  if number.rank < 1 <<< 52 then number.rank else 1 <<< 52 + number.rank % (1 <<< 52)

def scale (number : Finite) : Int :=
  if number.rank < 1 <<< 52 then -1074 else Int.ofNat (number.rank >>> 52) - 1075

def zero (negative : Bool) : Finite := ⟨negative, 0, by decide⟩

end Finite

end Binary64

inductive Binary64 where
  | nan
  | infinite (negative : Bool)
  | finite (number : Binary64.Finite)
  deriving DecidableEq

namespace Binary64

def ofRank (negative : Bool) (rank : Nat) : Binary64 :=
  if fits : rank < rankBound then .finite ⟨negative, rank, fits⟩ else .infinite negative

/-- The nearest integer to `num / den`, a half going to the even neighbour. -/
def roundHalfEven (num den : Nat) : Nat :=
  let floor := num / den
  let twice := 2 * (num % den)
  if twice < den then floor
  else if den < twice then floor + 1
  else if floor % 2 = 0 then floor else floor + 1

def leadingBit (num den : Nat) : Int :=
  let guess : Int := Int.ofNat num.log2 - Int.ofNat den.log2
  if den <<< guess.toNat ≤ num <<< (-guess).toNat then guess else guess - 1

/-- The representable number nearest to a quotient, a half going to the even significand. -/
def ofRatio (negative : Bool) (num den : Nat) : Binary64 :=
  if num = 0 || den = 0 then .finite (.zero negative)
  else
    let scale := max (leadingBit num den - 52) (-1074)
    let steps := roundHalfEven (num <<< (-scale).toNat) (den <<< scale.toNat)
    ofRank negative ((scale + 1074).toNat <<< 52 + steps)

def ofScaled (negative : Bool) (significand : Nat) (scale : Int) : Binary64 :=
  ofRatio negative (significand <<< scale.toNat) (1 <<< (-scale).toNat)

def ofNat (value : Nat) : Binary64 := ofRatio false value 1

def ofInt (value : Int) : Binary64 := ofRatio (value < 0) value.natAbs 1

def finite? : Binary64 → Option Finite
  | .finite number => some number
  | _ => none

def isNegative : Binary64 → Bool
  | .nan => false
  | .infinite negative => negative
  | .finite number => number.negative

def isZero : Binary64 → Bool
  | .finite number => number.rank == 0
  | _ => false

/-- Zero times infinity is no number. -/
def mul (left right : Binary64) : Binary64 :=
  let negative := left.isNegative != right.isNegative
  match left, right with
  | .nan, _ => .nan
  | _, .nan => .nan
  | .finite a, .finite b =>
      ofScaled negative (a.significand * b.significand) (a.scale + b.scale)
  | _, _ => if left.isZero || right.isZero then .nan else .infinite negative

def Finite.div (left right : Finite) : Binary64 :=
  let shift := left.scale - right.scale
  ofRatio (left.negative != right.negative) (left.significand <<< shift.toNat)
    (right.significand <<< (-shift).toNat)

/-- The place of a number that is not `nan` on the line from minus to plus infinity. -/
def place : Binary64 → Int
  | .nan => 0
  | .infinite negative => if negative then -Int.ofNat rankBound else Int.ofNat rankBound
  | .finite number =>
      if number.negative then -Int.ofNat number.rank else Int.ofNat number.rank

/-- The smaller of two numbers; `nan` gives way to the other one. -/
def min (left right : Binary64) : Binary64 :=
  match left, right with
  | .nan, _ => right
  | _, .nan => left
  | _, _ => if right.place < left.place then right else left

def Finite.floorMagnitude (number : Finite) : Nat :=
  number.significand <<< number.scale.toNat >>> (-number.scale).toNat

/-- The integer part, cut to `0 .. limit`; `nan` gives zero. -/
def truncate (limit : Nat) : Binary64 → Nat
  | .nan => 0
  | .infinite negative => if negative then 0 else limit
  | .finite number => if number.negative then 0 else Nat.min number.floorMagnitude limit

def toBits : Binary64 → UInt64
  | .nan => 0x7FF8000000000000
  | .infinite negative => UInt64.ofNat (rankBound + if negative then 1 <<< 63 else 0)
  | .finite number => UInt64.ofNat (number.rank + if number.negative then 1 <<< 63 else 0)

def ofBits (bits : UInt64) : Binary64 :=
  let negative := 1 <<< 63 ≤ bits.toNat
  let rank := bits.toNat % (1 <<< 63)
  if rank ≤ rankBound then ofRank negative rank else .nan

/-- A power with a whole exponent. Powers of a power of two are exact until they overflow; of any
other base the machine's own power function is taken. -/
def pow (base : Binary64) (exponent : Nat) : Binary64 :=
  match base with
  | .finite number =>
      if number.significand = 1 <<< 52 && !number.negative then
        let bit := (number.scale + 52) * exponent
        if 1024 ≤ bit then .infinite false else ofScaled false 1 (Max.max bit (-1080))
      else viaMachine
  | _ => viaMachine
where
  viaMachine : Binary64 :=
    ofBits (Float.pow (Float.ofBits base.toBits) (Float.ofNat exponent)).toBits

end Binary64

end Resumable
