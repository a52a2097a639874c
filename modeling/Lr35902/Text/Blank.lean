/-!
# Blanks

The characters with the Unicode property White_Space, and stripping characters off both ends of
a text.
-/

namespace Lr35902.Text

/-- Whether a character has the Unicode property White_Space. -/
def isBlank (c : Char) : Bool :=
  let n := c.toNat
  (0x09 ≤ n && n ≤ 0x0D) || n == 0x20 || n == 0x85 || n == 0xA0 || n == 0x1680 ||
    (0x2000 ≤ n && n ≤ 0x200A) || n == 0x2028 || n == 0x2029 || n == 0x202F || n == 0x205F ||
    n == 0x3000

/-- The text without the characters of a class at its end. -/
def stripEnd (p : Char → Bool) (cs : List Char) : List Char := (cs.reverse.dropWhile p).reverse

/-- The text without the characters of a class at either end. -/
def strip (p : Char → Bool) (cs : List Char) : List Char := stripEnd p (cs.dropWhile p)

end Lr35902.Text
