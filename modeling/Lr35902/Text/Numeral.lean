/-!
# Numerals

Fixed-width upper-case hexadecimal, plain decimal, and decimal with its sign always written; and
decimal numbers read.
-/

namespace Lr35902.Numeral

/-- The hexadecimal digit of a number below 16. -/
def hexDigit (n : Nat) : Char :=
  if n < 10 then Char.ofNat (48 + n) else Char.ofNat (55 + n)

def hexDigits : Nat → Nat → List Char
  | 0, _ => []
  | width + 1, n => hexDigits width (n / 16) ++ [hexDigit (n % 16)]

def hex (width n : Nat) : String := String.ofList (hexDigits width n)

def decimal (n : Nat) : String := String.ofList (Nat.toDigits 10 n)

/-- Decimal with a sign, which zero has too. -/
def signedDecimal (z : Int) : String :=
  if z < 0 then "-" ++ decimal z.natAbs else "+" ++ decimal z.natAbs

/-- A byte as two digits behind the hexadecimal marker. -/
def byte (b : UInt8) : String := "0x" ++ hex 2 b.toNat

/-- A word as four digits behind the hexadecimal marker. -/
def word (w : UInt16) : String := "0x" ++ hex 4 w.toNat

/-- The value of decimal digits read behind the value so far. -/
def readDigits (value : Nat) : List Char → Option Nat
  | [] => some value
  | c :: cs => if c.isDigit then readDigits (10 * value + (c.toNat - 48)) cs else none

/-- Reads a decimal number: one digit at least, behind a plus sign if need be. -/
def readUnsigned : List Char → Option Nat
  | [] => none
  | '+' :: [] => none
  | '+' :: cs => readDigits 0 cs
  | cs => readDigits 0 cs

def bit (b : Bool) : String := if b then "1" else "0"

theorem length_hexDigits (width n : Nat) : (hexDigits width n).length = width := by
  induction width generalizing n with
  | zero => rfl
  | succ w ih => simp [hexDigits, ih]

end Lr35902.Numeral
