import Resumable.Text.Marks

/-!
Text as messages quote it: between double quotes, with quotes, backslashes and hidden characters
escaped, so that two different texts never look the same.
-/

namespace Resumable.Text

def hexDigits (code : Nat) : List Char := Nat.toDigits 16 code

def quotedChar (char : Char) : List Char :=
  match char with
  | '"' => ['\\', '"']
  | '\\' => ['\\', '\\']
  | '\n' => ['\\', 'n']
  | '\r' => ['\\', 'r']
  | '\t' => ['\\', 't']
  | '\x00' => ['\\', '0']
  | _ =>
      if 0x20 ≤ char.toNat && char.toNat < 0x7F then [char]
      else if char.toNat < 0x80 || isHidden char then
        ['\\', 'u', '\x7b'] ++ hexDigits char.toNat ++ ['\x7d']
      else [char]

def quoted (text : String) : String :=
  String.ofList ('"' :: text.toList.flatMap quotedChar ++ ['"'])

end Resumable.Text
