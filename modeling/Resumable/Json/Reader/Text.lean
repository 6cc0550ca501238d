import Resumable.Json.Reader.Basic

/-!
Reading quoted text. Escapes name units of sixteen bits, and a pair of them may stand for one
character. A unit that finds no partner is a flaw only to a decoder that wants the text.
-/

namespace Resumable.Json.Reader

inductive Piece where
  | plain (char : Char)
  /-- A unit of sixteen bits from an escape, with what is left behind it. -/
  | unit (code left : Nat)

def hexValue? (char : Char) : Option Nat :=
  let code := char.toNat
  if 48 ≤ code && code ≤ 57 then some (code - 48)
  else if 65 ≤ code && code ≤ 70 then some (code - 55)
  else if 97 ≤ code && code ≤ 102 then some (code - 87)
  else none

def simpleEscape? : Char → Option Char
  | '"' => some '"'
  | '\\' => some '\\'
  | '/' => some '/'
  | 'b' => some '\x08'
  | 'f' => some '\x0c'
  | 'n' => some '\n'
  | 'r' => some '\r'
  | 't' => some '\t'
  | _ => none

def hexUnit? (first second third fourth : Char) : Option Nat := do
  let a ← hexValue? first
  let b ← hexValue? second
  let c ← hexValue? third
  let d ← hexValue? fourth
  return ((a * 16 + b) * 16 + c) * 16 + d

def flawInUnit (chars : List Char) : Flaw :=
  if byteCount chars < 4 then flawAt .endInText [] else ⟨.escapeInvalid, byteCount chars - 4⟩

/-- The pieces of a text up to its closing quote, and what follows the quote. -/
def pieces : List Char → List Piece × Except Flaw (List Char)
  | [] => ([], .error (flawAt .endInText []))
  | '"' :: rest => ([], .ok rest)
  | ['\\'] => ([], .error (flawAt .endInText []))
  | '\\' :: 'u' :: first :: second :: third :: fourth :: rest =>
      match hexUnit? first second third fourth with
      | some code =>
          let (more, after) := pieces rest
          (.unit code (byteCount rest) :: more, after)
      | none => ([], .error (flawInUnit (first :: second :: third :: fourth :: rest)))
  | '\\' :: escape :: rest =>
      match simpleEscape? escape with
      | some char =>
          let (more, after) := pieces rest
          (.plain char :: more, after)
      | none =>
          if escape = 'u' then ([], .error (flawInUnit rest))
          else ([], .error (flawBefore .escapeInvalid rest))
  | char :: rest =>
      if char.toNat < 0x20 then ([], .error (flawBefore .controlCharacter rest))
      else
        let (more, after) := pieces rest
        (.plain char :: more, after)

/-- Joins surrogate pairs. `ending` is the flaw at which the pieces stop, if they do. -/
def join (ending : Option Flaw) : List Piece → Except Flaw (List Char)
  | [] =>
      match ending with
      | none => .ok []
      | some flaw => .error flaw
  | .plain char :: rest => (join ending rest).map (char :: ·)
  | .unit code left :: rest =>
      if 0xDC00 ≤ code && code < 0xE000 then .error ⟨.surrogateAlone, left⟩
      else if 0xD800 ≤ code && code < 0xDC00 then
        match rest with
        | .unit low after :: more =>
            if 0xDC00 ≤ low && low < 0xE000 then
              (join ending more).map
                (Char.ofNat (0x10000 + (code - 0xD800) * 0x400 + (low - 0xDC00)) :: ·)
            else .error ⟨.surrogateAlone, after⟩
        | .plain _ :: _ => .error ⟨.escapeCutShort, left - 1⟩
        | [] => .error (ending.getD ⟨.escapeCutShort, left - 1⟩)
      else (join ending rest).map (Char.ofNat code :: ·)

structure TextReading where
  content : Except Flaw String
  after : Except Flaw (List Char)

/-- Reads on from behind the opening quote. -/
def text (chars : List Char) : TextReading :=
  let (found, after) := pieces chars
  let ending := match after with
    | .ok _ => none
    | .error flaw => some flaw
  ⟨(join ending found).map String.ofList, after⟩

def TextReading.reading (reading : TextReading) : Reading :=
  match reading.content, reading.after with
  | .ok content, .ok rest => ⟨.text content, some rest⟩
  | .error wanted, .ok rest => ⟨.fault wanted none, some rest⟩
  | .error wanted, .error flaw => ⟨.fault wanted (some flaw), none⟩
  | .ok _, .error flaw => .stuck flaw

end Resumable.Json.Reader
