import Resumable.Json.Reader

/-!
A text has one value, and only blanks behind it. Its containers lie at most `depthLimit` deep inside
one another.
-/

namespace Resumable.Json

/-- The line and column of a byte of a text, columns counted in bytes. -/
def position (bytes : Nat) : List Char → Nat × Nat
  | chars => go chars bytes 1 0
where
  go : List Char → Nat → Nat → Nat → Nat × Nat
    | [], left, line, column => (line, column + left)
    | char :: rest, left, line, column =>
        if left < char.utf8Size then (line, column + left)
        else if char = '\n' then go rest (left - 1) (line + 1) 0
        else go rest (left - char.utf8Size) line (column + char.utf8Size)

def Flaw.messageIn (flaw : Flaw) (text : String) : String :=
  let (line, column) := position (text.utf8ByteSize - flaw.left) text.toList
  s!"{flaw.cause.message} at line {line} column {column}"

/-- The flaw of what stands behind the value of a text. -/
def trailing : Option (List Char) → Except Flaw Unit
  | none => .ok ()
  | some rest =>
      match Reader.dropSpaces rest with
      | [] => .ok ()
      | other => .error (Reader.flawAt .trailingCharacters other)

/-- How deep containers may lie inside one another in a text. -/
def depthLimit : Nat := 127

def parse (text : String) : Except Flaw Json := do
  let reading := Reader.read text.toList
  let value ← (reading.draft.limited depthLimit).resolve
  trailing reading.after
  return value

end Resumable.Json
