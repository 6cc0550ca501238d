/-!
Blank characters are those with the Unicode property White_Space.
-/

namespace Resumable.Text

def isBlank (char : Char) : Bool :=
  let code := char.toNat
  (9 ≤ code && code ≤ 13) || code == 32 || code == 0x85 || code == 0xA0 || code == 0x1680 ||
    (0x2000 ≤ code && code ≤ 0x200A) || code == 0x2028 || code == 0x2029 || code == 0x202F ||
    code == 0x205F || code == 0x3000

def dropBlanks (chars : List Char) : List Char := chars.dropWhile isBlank

def trim (chars : List Char) : List Char :=
  (dropBlanks (dropBlanks chars).reverse).reverse

end Resumable.Text
