import Resumable.Table
import Resumable.Binary64

/-!
JSON values. Whole numbers and binary ones are kept apart, because a stored number comes back as the
kind it was; members of objects are tables in key order.
-/

namespace Resumable

inductive Number where
  | whole (value : Int)
  | real (value : Binary64.Finite)
  deriving DecidableEq

inductive Json where
  | null
  | bool (value : Bool)
  | number (value : Number)
  | text (value : String)
  | array (items : List Json)
  | object (members : List (String × Json))

/-- The members of one JSON object. -/
abbrev Document := Table Json

/-- Whole numbers outside these bounds have no JSON text of their own kind. -/
def Number.InRange : Number → Prop
  | .whole value => -Int.ofNat (1 <<< 63) ≤ value ∧ value < Int.ofNat (1 <<< 64)
  | .real _ => True

def Number.natural? : Number → Option Nat
  | .whole value => if 0 ≤ value then some value.toNat else none
  | .real _ => none

namespace Json

instance : Inhabited Json := ⟨.null⟩

def nat (value : Nat) : Json := .number (.whole (Int.ofNat value))

def int (value : Int) : Json := .number (.whole value)

/-- There is no text for `nan` and the infinities; they are stored as null. -/
def ofBinary64 : Binary64 → Json
  | .finite value => .number (.real value)
  | _ => .null

def isNull : Json → Bool
  | .null => true
  | _ => false

def natural? : Json → Option Nat
  | .number value => value.natural?
  | _ => none

/-- An object from members in any order. -/
def record (members : List (String × Json)) : Json := .object (Table.ofList members)

def texts (values : List String) : Json := .array (values.map .text)

mutual

/-- Containers inside one another, the value itself included. -/
def depth : Json → Nat
  | .array items => depthOfItems items + 1
  | .object members => depthOfMembers members + 1
  | _ => 0

def depthOfItems : List Json → Nat
  | [] => 0
  | item :: rest => Nat.max (depth item) (depthOfItems rest)

def depthOfMembers : List (String × Json) → Nat
  | [] => 0
  | (_, value) :: rest => Nat.max (depth value) (depthOfMembers rest)

end

mutual

/-- Numbers are in range and keys ascend at every level. -/
def WellFormed : Json → Prop
  | .number value => value.InRange
  | .array items => WellFormedItems items
  | .object members => Table.Ascending members ∧ WellFormedMembers members
  | _ => True

def WellFormedItems : List Json → Prop
  | [] => True
  | item :: rest => WellFormed item ∧ WellFormedItems rest

def WellFormedMembers : List (String × Json) → Prop
  | [] => True
  | (_, value) :: rest => WellFormed value ∧ WellFormedMembers rest

end

end Json

def Document.WellFormed (document : Document) : Prop := (Json.object document).WellFormed

end Resumable
