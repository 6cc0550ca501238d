import Resumable.Decimal
import Resumable.Json.Value

/-!
The compact text of JSON values: no blanks, members in key order, binary numbers by their shortest
digits and always with a point or an exponent.
-/

namespace Resumable.Json

/-- Binary numbers are written by position from `0.00001` to below `1e+16`. -/
def realLayout : Decimal.Layout := ⟨(-5, 16), true, 'e', true⟩

def writtenInt (value : Int) : List Char :=
  (if value < 0 then ['-'] else []) ++ Text.digitsOf value.natAbs

def writtenReal (value : Binary64.Finite) : List Char :=
  (if value.negative then ['-'] else []) ++ realLayout.text (Decimal.shortest value)

def writtenNumber : Number → List Char
  | .whole value => writtenInt value
  | .real value => writtenReal value

def escaped (char : Char) : List Char :=
  match char with
  | '"' => ['\\', '"']
  | '\\' => ['\\', '\\']
  | '\n' => ['\\', 'n']
  | '\r' => ['\\', 'r']
  | '\t' => ['\\', 't']
  | '\x08' => ['\\', 'b']
  | '\x0c' => ['\\', 'f']
  | _ =>
      if char.toNat < 0x10 then ['\\', 'u', '0', '0', '0'] ++ Nat.toDigits 16 char.toNat
      else if char.toNat < 0x20 then ['\\', 'u', '0', '0'] ++ Nat.toDigits 16 char.toNat
      else [char]

def writtenText (value : String) : List Char :=
  '"' :: value.toList.flatMap escaped ++ ['"']

mutual

def written : Json → List Char
  | .null => ['n', 'u', 'l', 'l']
  | .bool true => ['t', 'r', 'u', 'e']
  | .bool false => ['f', 'a', 'l', 's', 'e']
  | .number value => writtenNumber value
  | .text value => writtenText value
  | .array [] => ['[', ']']
  | .array (first :: rest) => '[' :: written first ++ writtenItems rest
  | .object [] => ['\x7b', '\x7d']
  | .object ((key, value) :: rest) =>
      '\x7b' :: writtenText key ++ ':' :: written value ++ writtenMembers rest

/-- The items after the first one, and the closing bracket. -/
def writtenItems : List Json → List Char
  | [] => [']']
  | item :: rest => ',' :: written item ++ writtenItems rest

def writtenMembers : List (String × Json) → List Char
  | [] => ['\x7d']
  | (key, value) :: rest =>
      ',' :: writtenText key ++ ':' :: written value ++ writtenMembers rest

end

def render (value : Json) : String := String.ofList (written value)

end Resumable.Json
