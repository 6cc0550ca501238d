import Resumable.Text.Blank
import Resumable.Text.Digits

/-!
Lengths of time, and their text of days, hours, minutes and seconds.
-/

namespace Resumable

structure Span where
  seconds : Nat
  nanos : Nat
  deriving DecidableEq

namespace Span

def ofSeconds (seconds : Nat) : Span := ⟨seconds, 0⟩

def millis (span : Span) : Nat := span.seconds * 1000 + span.nanos / 1000000

def le (left right : Span) : Bool :=
  left.seconds < right.seconds || (left.seconds == right.seconds && left.nanos ≤ right.nanos)

/-- Largest number of seconds a span can be written with. -/
def maxSeconds : Nat := 1 <<< 64 - 1

/-- The units of a written span, each at most once and in this order. -/
def units : List (Char × Nat) := [('d', 86400), ('h', 3600), ('m', 60), ('s', 1)]

structure ParseError where
  text : String
  deriving DecidableEq

def ParseError.message (error : ParseError) : String :=
  s!"Invalid duration '{error.text}', expected a form like '1d 2h 3m 4s'"

/-- Without blanks, in lower case. -/
def compacted (chars : List Char) : List Char :=
  (chars.filter fun char => !Text.isBlank char).map Char.toLower

def compact (text : String) : List Char := compacted text.toList

/-- The seconds of a sequence of parts whose units are among those given, in their order. -/
def totalOfParts : List (Char × Nat) → List Char → Option Nat
  | _, [] => some 0
  | [], _ :: _ => none
  | (symbol, seconds) :: later, chars =>
      let digits := (Text.spanDigits chars).1
      match (Text.spanDigits chars).2 with
      | [] => none
      | unit :: rest =>
          if unit ≠ symbol then totalOfParts later chars
          else if digits.isEmpty then none
          else (totalOfParts later rest).map (Text.natOfDigits digits * seconds + ·)

def parse (text : String) : Except ParseError Span :=
  let chars := compact text
  match totalOfParts units chars with
  | some total =>
      if chars.isEmpty || maxSeconds < total then .error ⟨text⟩ else .ok (ofSeconds total)
  | none => .error ⟨text⟩

/-- The parts of a number of seconds that are not zero, largest unit first. -/
def parts : List (Char × Nat) → Nat → List String
  | [], _ => []
  | (symbol, seconds) :: later, total =>
      let rest := parts later (total % seconds)
      if total / seconds = 0 then rest
      else String.ofList (Text.digitsOf (total / seconds) ++ [symbol]) :: rest

/-- Whole seconds only. -/
def format (span : Span) : String :=
  if span.seconds = 0 then "0s" else " ".intercalate (parts units span.seconds)

end Span

end Resumable
