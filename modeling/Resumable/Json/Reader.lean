import Resumable.Json.Reader.Number
import Resumable.Json.Reader.Text

/-!
Reading whole texts: arrays, objects, and the value of a text.
-/

namespace Resumable.Json.Reader

structure Items where
  items : List Draft
  ending : Ending
  after : Option (List Char)

structure Members where
  members : List (String × Draft)
  ending : Ending
  after : Option (List Char)

def Items.stuck (flaw : Flaw) : Items := ⟨[], .broken flaw (some flaw), none⟩

def Members.stuck (flaw : Flaw) : Members := ⟨[], .broken flaw (some flaw), none⟩

/-- Puts a member in front. A key that is no text hides all that follows it from a decoder that
wants the object. -/
def Members.cons (key : Except Flaw String) (value : Draft) (rest : Members) : Members :=
  match key with
  | .ok key => { rest with members := (key, value) :: rest.members }
  | .error wanted =>
      { rest with
        members := []
        ending :=
          .broken wanted (Draft.skipFlaw (.object (("", value) :: rest.members) rest.ending)) }

mutual

def value (fuel : Nat) (chars : List Char) : Reading :=
  match fuel with
  | 0 => .stuck (flawAt .endInValue [])
  | fuel + 1 =>
      match dropSpaces chars with
      | [] => .stuck (flawAt .endInValue [])
      | 'n' :: rest => literal .null ['u', 'l', 'l'] rest
      | 't' :: rest => literal (.bool true) ['r', 'u', 'e'] rest
      | 'f' :: rest => literal (.bool false) ['a', 'l', 's', 'e'] rest
      | '"' :: rest => (text rest).reading
      | '-' :: rest => number true rest
      | '[' :: rest =>
          match dropSpaces rest with
          | ']' :: after => ⟨.array [] .closed, some after⟩
          | [] =>
              let found := Items.stuck (flawAt .endInArray [])
              ⟨.array found.items found.ending, found.after⟩
          | first =>
              let found := items fuel first
              ⟨.array found.items found.ending, found.after⟩
      | '\x7b' :: rest =>
          match dropSpaces rest with
          | '\x7d' :: after => ⟨.object [] .closed, some after⟩
          | first =>
              let found := members fuel .endInObject first
              ⟨.object found.members found.ending, found.after⟩
      | char :: rest =>
          if char.isDigit then number false (char :: rest)
          else .stuck (flawAt .valueMissing (char :: rest))

/-- Items from the next one on. -/
def items (fuel : Nat) (chars : List Char) : Items :=
  match fuel with
  | 0 => .stuck (flawAt .endInValue [])
  | fuel + 1 =>
      let item := value fuel chars
      match item.after with
      | none => ⟨[item.draft], .closed, none⟩
      | some rest =>
          let tail : Items :=
            match dropSpaces rest with
            | ']' :: after => ⟨[], .closed, some after⟩
            | ',' :: more =>
                match dropSpaces more with
                | ']' :: after => .stuck (flawAt .trailingComma (']' :: after))
                | next => items fuel next
            | [] => .stuck (flawAt .endInArray [])
            | other => .stuck (flawAt .arrayCommaMissing other)
          { tail with items := item.draft :: tail.items }

/-- Members from the next key on; `atEnd` is the flaw of a text that ends before the key. -/
def members (fuel : Nat) (atEnd : Flaw.Cause) (chars : List Char) : Members :=
  match fuel with
  | 0 => .stuck (flawAt .endInValue [])
  | fuel + 1 =>
      match chars with
      | '"' :: rest =>
          let key := text rest
          match key.after with
          | .error flaw =>
              match key.content with
              | .ok _ => .stuck flaw
              | .error wanted => ⟨[], .broken wanted (some flaw), none⟩
          | .ok rest =>
              -- A key counts as read before its colon is looked for, so a member without one stands
              -- in the object with a flaw for its value.
              let found : Reading :=
                match dropSpaces rest with
                | ':' :: more => value fuel more
                | [] => .stuck (flawAt .endInObject [])
                | other => .stuck (flawAt .colonMissing other)
              let tail : Members :=
                match found.after with
                | none => ⟨[], .closed, none⟩
                | some rest =>
                    match dropSpaces rest with
                    | '\x7d' :: after => ⟨[], .closed, some after⟩
                    | ',' :: more => members fuel .endInValue (dropSpaces more)
                    | [] => .stuck (flawAt .endInObject [])
                    | other => .stuck (flawAt .objectCommaMissing other)
              tail.cons key.content found.draft
      | '\x7d' :: rest => .stuck (flawAt .trailingComma ('\x7d' :: rest))
      | [] => .stuck (flawAt atEnd [])
      | other => .stuck (flawAt .keyNotText other)

end

/-- A text has one value, and after it nothing but blanks. -/
def read (text : List Char) : Reading := value (2 * text.length + 2) text

end Resumable.Json.Reader
