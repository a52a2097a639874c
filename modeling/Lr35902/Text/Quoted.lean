import Lr35902.Text.Printable

/-!
# Quotations

A text between quotation marks. Quotation mark, backslash and what is not printable are escaped,
by a letter if there is one and by the code point otherwise.
-/

namespace Lr35902.Text

/-- The code point in the fewest hexadecimal digits, in lower case. -/
def codePoint (c : Char) : List Char := Nat.toDigits 16 c.toNat

def escaped (c : Char) : List Char :=
  match c with
  | '\x00' => ['\\', '0']
  | '\t' => ['\\', 't']
  | '\n' => ['\\', 'n']
  | '\r' => ['\\', 'r']
  | '"' => ['\\', '"']
  | '\\' => ['\\', '\\']
  | c => if isPrintable c then [c] else "\\u\x7b".toList ++ codePoint c ++ "\x7d".toList

def quoted (s : String) : String := "\"" ++ String.ofList (s.toList.flatMap escaped) ++ "\""

end Lr35902.Text
