import Lr35902.Flags
import Lr35902.Word

/-!
# Arithmetic and logic

What each operation of the arithmetic unit makes of its operands and of the flags before it: a
result and the flags after it. A carry is a sum that outgrows the byte (half carry: the low
nibble), a borrow a difference below zero.
-/

namespace Lr35902.Alu

def addWith (carry : Bool) (a b : UInt8) : UInt8 × Flags :=
  let sum := a + b + carry.toUInt8
  (sum,
    { zero := sum == 0
      subtract := false
      halfCarry := decide (16 ≤ a.toNat % 16 + b.toNat % 16 + carry.toNat)
      carry := decide (256 ≤ a.toNat + b.toNat + carry.toNat) })

def subWith (borrow : Bool) (a b : UInt8) : UInt8 × Flags :=
  let diff := a - b - borrow.toUInt8
  (diff,
    { zero := diff == 0
      subtract := true
      halfCarry := decide (a.toNat % 16 < b.toNat % 16 + borrow.toNat)
      carry := decide (a.toNat < b.toNat + borrow.toNat) })

def add (a b : UInt8) : UInt8 × Flags := addWith false a b

def adc (f : Flags) (a b : UInt8) : UInt8 × Flags := addWith f.carry a b

def sub (a b : UInt8) : UInt8 × Flags := subWith false a b

def sbc (f : Flags) (a b : UInt8) : UInt8 × Flags := subWith f.carry a b

/-- The flags of a subtraction whose difference nobody wants. -/
def compare (a b : UInt8) : Flags := (sub a b).2

def logicFlags (result : UInt8) (halfCarry : Bool) : Flags where
  zero := result == 0
  subtract := false
  halfCarry := halfCarry
  carry := false

def and (a b : UInt8) : UInt8 × Flags := (a &&& b, logicFlags (a &&& b) true)

def or (a b : UInt8) : UInt8 × Flags := (a ||| b, logicFlags (a ||| b) false)

def xor (a b : UInt8) : UInt8 × Flags := (a ^^^ b, logicFlags (a ^^^ b) false)

/-- One more; the carry flag stays. -/
def inc (f : Flags) (v : UInt8) : UInt8 × Flags :=
  (v + 1,
    { f with zero := v + 1 == 0, subtract := false, halfCarry := decide (v.toNat % 16 = 15) })

/-- One less; the carry flag stays. -/
def dec (f : Flags) (v : UInt8) : UInt8 × Flags :=
  (v - 1,
    { f with zero := v - 1 == 0, subtract := true, halfCarry := decide (v.toNat % 16 = 0) })

/-- The sum of two words. Carries are those out of bits 11 and 15; the zero flag stays. -/
def addWords (f : Flags) (a b : UInt16) : UInt16 × Flags :=
  (a + b,
    { zero := f.zero
      subtract := false
      halfCarry := decide (4096 ≤ a.toNat % 4096 + b.toNat % 4096)
      carry := decide (65536 ≤ a.toNat + b.toNat) })

/-- A word plus an offset. Carries are those of adding the offset's byte to the low byte. -/
def addOffset (w : UInt16) (offset : UInt8) : UInt16 × Flags :=
  (Word.addOffset w offset,
    { zero := false
      subtract := false
      halfCarry := decide (16 ≤ w.toNat % 16 + offset.toNat % 16)
      carry := decide (256 ≤ w.toNat % 256 + offset.toNat) })

/-- The flags of a rotation or shift that moved `out` out of the byte. -/
def shiftFlags (result : UInt8) (out : Bool) : Flags where
  zero := result == 0
  subtract := false
  halfCarry := false
  carry := out

/-- Moves every bit up one place, `enter` into bit 0. -/
def moveLeft (enter : Bool) (v : UInt8) : UInt8 × Flags :=
  let result := v * 2 + enter.toUInt8
  (result, shiftFlags result (v.toNat.testBit 7))

def moveRight (enter : Bool) (v : UInt8) : UInt8 × Flags :=
  let result := v / 2 + enter.toUInt8 * 128
  (result, shiftFlags result (v.toNat.testBit 0))

/-- Rotates left: bit 7 enters at bit 0. -/
def rlc (v : UInt8) : UInt8 × Flags := moveLeft (v.toNat.testBit 7) v

def rrc (v : UInt8) : UInt8 × Flags := moveRight (v.toNat.testBit 0) v

/-- Rotates left through the carry flag. -/
def rl (f : Flags) (v : UInt8) : UInt8 × Flags := moveLeft f.carry v

def rr (f : Flags) (v : UInt8) : UInt8 × Flags := moveRight f.carry v

def sla (v : UInt8) : UInt8 × Flags := moveLeft false v

/-- Shifts right and keeps bit 7. -/
def sra (v : UInt8) : UInt8 × Flags := moveRight (v.toNat.testBit 7) v

def srl (v : UInt8) : UInt8 × Flags := moveRight false v

/-- Exchanges the nibbles. -/
def swap (v : UInt8) : UInt8 × Flags :=
  let result := v * 16 + v / 16
  (result, shiftFlags result false)

/-- The byte with only the given bit set; bits are counted modulo 8. -/
def bitMask (bit : UInt8) : UInt8 := 1 <<< bit

/-- The flags of testing a bit; the carry flag stays. -/
def testBit (f : Flags) (bit v : UInt8) : Flags :=
  { f with zero := v &&& bitMask bit == 0, subtract := false, halfCarry := true }

def resetBit (bit v : UInt8) : UInt8 := v &&& ~~~bitMask bit

def setBit (bit v : UInt8) : UInt8 := v ||| bitMask bit

/-- The correction that makes a binary sum or difference of two decimal bytes decimal again. -/
def decimalCorrection (low high : Bool) : UInt8 :=
  (if low then 0x06 else 0x00) + (if high then 0x60 else 0x00)

/-- Adjusts the result of an addition or subtraction of packed decimals. -/
def daa (f : Flags) (v : UInt8) : UInt8 × Flags :=
  let high := f.carry || (!f.subtract && decide (0x99 < v.toNat))
  let low := f.halfCarry || (!f.subtract && decide (9 < v.toNat % 16))
  let result :=
    if f.subtract then v - decimalCorrection low high else v + decimalCorrection low high
  (result, { zero := result == 0, subtract := f.subtract, halfCarry := false, carry := high })

/-- The complement; zero and carry flags stay. -/
def complement (f : Flags) (v : UInt8) : UInt8 × Flags :=
  (~~~v, { f with subtract := true, halfCarry := true })

end Lr35902.Alu
