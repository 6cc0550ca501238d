import Resumable.Json.Draft

/-!
Reading JSON text into a draft. Every reader takes the characters that are left and gives back those
after what it read, or none after a flaw that nothing can pass over.
-/

namespace Resumable.Json.Reader

def isSpace (char : Char) : Bool :=
  char == ' ' || char == '\n' || char == '\t' || char == '\r'

def dropSpaces (chars : List Char) : List Char := chars.dropWhile isSpace

def byteCount (chars : List Char) : Nat := chars.foldl (fun total char => total + char.utf8Size) 0

/-- A flaw behind the characters that have been taken. -/
def flawBefore (cause : Flaw.Cause) (rest : List Char) : Flaw := ⟨cause, byteCount rest⟩

/-- A flaw at the next character, or at the end of the text. -/
def flawAt (cause : Flaw.Cause) (chars : List Char) : Flaw := ⟨cause, byteCount chars - 1⟩

structure Reading where
  draft : Draft
  after : Option (List Char)

/-- A flaw in the way of everything. -/
def Reading.stuck (flaw : Flaw) : Reading := ⟨.fault flaw (some flaw), none⟩

def literal (value : Draft) : List Char → List Char → Reading
  | [], rest => ⟨value, some rest⟩
  | _ :: _, [] => .stuck (flawAt .endInValue [])
  | expected :: more, char :: rest =>
      if char = expected then literal value more rest
      else .stuck (flawBefore .literalMisspelt rest)

end Resumable.Json.Reader
