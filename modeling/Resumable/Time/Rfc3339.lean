import Resumable.Text.Blank
import Resumable.Text.Digits
import Resumable.Time.Instant

/-!
The text of instants by RFC 3339. Instants are written in universal time with as few of three, six
or nine digits of a second as are exact; they are read with any offset, and with blanks in places.
-/

namespace Resumable.Time

inductive ParseError where
  | tooShort
  | invalid
  | outOfRange
  | tooLong
  | impossible
  deriving DecidableEq

def ParseError.message : ParseError → String
  | .tooShort => "premature end of input"
  | .invalid => "input contains invalid characters"
  | .outOfRange => "input is out of range"
  | .tooLong => "trailing input"
  | .impossible => "no possible date and time matching input"

def padded (width value : Nat) : List Char :=
  let digits := Text.digitsOf value
  List.replicate (width - digits.length) '0' ++ digits

def yearText (year : Int) : List Char :=
  let digits := padded 4 year.natAbs
  if year < 0 then '-' :: digits else if 9999 < year then '+' :: digits else digits

def fractionText (nanos : Nat) : List Char :=
  if nanos = 0 then []
  else if nanos % 1000000 = 0 then '.' :: padded 3 (nanos / 1000000)
  else if nanos % 1000 = 0 then '.' :: padded 6 (nanos / 1000)
  else '.' :: padded 9 nanos

def dateText (instant : Instant) : List Char :=
  let date := Date.ofDays (Int.fdiv instant.seconds 86400)
  yearText date.year ++ '-' :: padded 2 date.month ++ '-' :: padded 2 date.day

def clockText (instant : Instant) : List Char :=
  let second := (Int.fmod instant.seconds 86400).toNat
  let extra := instant.nanos / 1000000000
  padded 2 (second / 3600) ++ ':' :: padded 2 (second / 60 % 60) ++
    ':' :: padded 2 (second % 60 + extra) ++ fractionText (instant.nanos % 1000000000)

/-! Reading. Each step takes the characters that are left and gives back the rest. -/

abbrev Scan (α : Type) := List Char → Except ParseError (α × List Char)

/-- At least one digit and at most `width` of them, a value that fits 63 bits. -/
def scanNumber (width : Option Nat) : Scan Nat := fun chars =>
  let limited := match width with
    | some count => chars.take count
    | none => chars
  let digits := limited.takeWhile Char.isDigit
  let value := Text.natOfDigits digits
  if chars.isEmpty then .error .tooShort
  else if digits.isEmpty then .error .invalid
  else if 1 <<< 63 ≤ value then .error .outOfRange
  else .ok (value, chars.drop digits.length)

/-- A number of at most two digits between bounds, blanks before it. -/
def scanField (low high : Nat) : Scan Nat := fun chars => do
  let (value, rest) ← scanNumber (some 2) (Text.dropBlanks chars)
  if low ≤ value && value ≤ high then .ok (value, rest) else .error .outOfRange

/-- Four digits at most, or any number of them behind a sign. -/
def scanYear : Scan Int := fun chars => do
  let (year, rest) ← match Text.dropBlanks chars with
    | '-' :: rest => do
        let (value, after) ← scanNumber none rest
        pure (-Int.ofNat value, after)
    | '+' :: rest => do
        let (value, after) ← scanNumber none rest
        pure (Int.ofNat value, after)
    | plain => do
        let (value, after) ← scanNumber (some 4) plain
        pure (Int.ofNat value, after)
  if -Int.ofNat (1 <<< 31) ≤ year && year < Int.ofNat (1 <<< 31) then .ok (year, rest)
  else .error .outOfRange

def scanMark (mark : Char) (chars : List Char) : Except ParseError (List Char) :=
  match Text.dropBlanks chars with
  | [] => .error .tooShort
  | char :: rest => if char = mark then .ok rest else .error .invalid

def scanSeparator : List Char → Except ParseError (List Char)
  | [] => .error .tooShort
  | char :: rest => if char = 't' || char = 'T' || char = ' ' then .ok rest else .error .invalid

/-- Digits behind the ninth are passed over. -/
def scanFraction : Scan Nat
  | '.' :: chars => do
      let (value, rest) ← scanNumber (some 9) chars
      let count := chars.length - rest.length
      .ok (value * Nat.pow 10 (9 - count), rest.dropWhile Char.isDigit)
  | chars => .ok (0, chars)

def twoDigits (chars : List Char) : Except ParseError (Nat × List Char) :=
  match chars with
  | [] => .error .tooShort
  | [char] => if char.utf8Size < 2 then .error .tooShort else .error .invalid
  | first :: second :: rest =>
      if first.isDigit && second.isDigit then
        .ok (Text.natOfDigits [first, second], rest)
      else .error .invalid

/-- Seconds east of universal time. -/
def scanOffset : Scan Int
  | 'Z' :: rest | 'z' :: rest => .ok (0, rest)
  | chars => do
      let (negative, unsigned) ← match chars with
        | '+' :: rest => .ok (false, rest)
        | '-' :: rest | '−' :: rest => .ok (true, rest)
        | _ :: _ => .error .invalid
        | [] => .error .tooShort
      let (hours, rest) ← twoDigits unsigned
      let apart := rest.dropWhile fun char => char == ':' || Text.isBlank char
      let (minutes, rest) ← twoDigits apart
      if 60 ≤ minutes then .error .outOfRange
      else
        let seconds := Int.ofNat (hours * 3600 + minutes * 60)
        .ok (if negative then -seconds else seconds, rest)

def scanZone (chars : List Char) : Except ParseError (Int × List Char) :=
  if (chars.take 3).map Char.toLower = ['u', 't', 'c'] then .ok (0, chars.drop 3)
  else scanOffset chars

def build (date : Date) (hour minute second nanos : Nat) (offset : Int) :
    Except ParseError Instant := do
  if !date.isValid || date.year < -262143 || 262142 < date.year then throw .outOfRange
  if 86400 ≤ offset.natAbs then throw .outOfRange
  let extra := if second = 60 then 1000000000 else 0
  let wall := date.toDays * 86400 +
    Int.ofNat (hour * 3600 + minute * 60 + Nat.min second 59)
  match Instant.of? (wall - offset) (nanos + extra) with
  | some instant => .ok instant
  | none => .error .impossible

def parse (text : String) : Except ParseError Instant := do
  let (year, rest) ← scanYear text.toList
  let rest ← scanMark '-' rest
  let (month, rest) ← scanField 1 12 rest
  let rest ← scanMark '-' rest
  let (day, rest) ← scanField 1 31 rest
  let rest ← scanSeparator rest
  let (hour, rest) ← scanField 0 23 rest
  let rest ← scanMark ':' rest
  let (minute, rest) ← scanField 0 59 rest
  let rest ← scanMark ':' rest
  let (second, rest) ← scanField 0 60 rest
  let (nanos, rest) ← scanFraction rest
  let (offset, rest) ← scanZone (Text.dropBlanks rest)
  if !(Text.dropBlanks rest).isEmpty then throw .tooLong
  build ⟨year, month, day⟩ hour minute second nanos offset

end Resumable.Time

namespace Resumable.Instant

def text (instant : Instant) : String :=
  String.ofList (Time.dateText instant ++ 'T' :: Time.clockText instant ++ ['Z'])

/-- The form for people to read. -/
def display (instant : Instant) : String :=
  String.ofList (Time.dateText instant ++ ' ' :: Time.clockText instant) ++ " UTC"

end Resumable.Instant
