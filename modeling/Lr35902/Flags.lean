import Lr35902.Text.Numeral

/-!
# Flags

The four condition flags and the byte they make up. Only the high half of that byte exists:
`toByte` leaves the low half clear and `ofByte` ignores it.
-/

namespace Lr35902

inductive Flag where
  | zero
  | subtract
  | halfCarry
  | carry
  deriving DecidableEq, Repr

/-- Why a flag could not be named or written. -/
inductive FlagError where
  | invalidBit (bit : UInt8)
  | unknownName (name : Char)
  deriving DecidableEq, Repr

def FlagError.message : FlagError → String
  | .invalidBit bit => "flag bit must be 0 or 1, got " ++ Numeral.decimal bit.toNat
  | .unknownName name =>
    "unknown flag name '" ++ String.singleton name ++ "', flag names are Z, N, H, C"

namespace Flag

def letter : Flag → Char
  | .zero => 'Z'
  | .subtract => 'N'
  | .halfCarry => 'H'
  | .carry => 'C'

/-- The flag's bit in the flag byte. -/
def mask : Flag → UInt8
  | .zero => 0x80
  | .subtract => 0x40
  | .halfCarry => 0x20
  | .carry => 0x10

/-- The flag with the given letter, in either case. -/
def ofLetter (c : Char) : Except FlagError Flag :=
  match c.toUpper with
  | 'Z' => .ok .zero
  | 'N' => .ok .subtract
  | 'H' => .ok .halfCarry
  | 'C' => .ok .carry
  | _ => .error (.unknownName c)

end Flag

@[ext] structure Flags where
  zero : Bool
  subtract : Bool
  halfCarry : Bool
  carry : Bool
  deriving DecidableEq, Repr

namespace Flags

def toByte (f : Flags) : UInt8 :=
  f.zero.toUInt8 * 128 + f.subtract.toUInt8 * 64 + f.halfCarry.toUInt8 * 32 + f.carry.toUInt8 * 16

/-- The flags in the high half of a byte. -/
def ofByte (b : UInt8) : Flags where
  zero := b.toNat.testBit 7
  subtract := b.toNat.testBit 6
  halfCarry := b.toNat.testBit 5
  carry := b.toNat.testBit 4

def get (f : Flags) : Flag → Bool
  | .zero => f.zero
  | .subtract => f.subtract
  | .halfCarry => f.halfCarry
  | .carry => f.carry

def set (f : Flags) (flag : Flag) (value : Bool) : Flags :=
  match flag with
  | .zero => { f with zero := value }
  | .subtract => { f with subtract := value }
  | .halfCarry => { f with halfCarry := value }
  | .carry => { f with carry := value }

/-- A flag as a bit, 0 or 1. -/
def bit (f : Flags) (flag : Flag) : UInt8 := (f.get flag).toUInt8

/-- Sets a flag from a bit, which has to be 0 or 1. -/
def setBit (f : Flags) (flag : Flag) (bit : UInt8) : Except FlagError Flags :=
  if bit < 2 then .ok (f.set flag (bit == 1)) else .error (.invalidBit bit)

@[simp] theorem ofByte_toByte (f : Flags) : ofByte f.toByte = f := by
  obtain ⟨z, n, h, c⟩ := f
  cases z <;> cases n <;> cases h <;> cases c <;> rfl

@[simp] theorem get_set_self (f : Flags) (flag : Flag) (v : Bool) :
    (f.set flag v).get flag = v := by
  cases flag <;> rfl

theorem get_set_of_ne (f : Flags) {flag other : Flag} (v : Bool) (h : other ≠ flag) :
    (f.set flag v).get other = f.get other := by
  cases flag <;> cases other <;> first | rfl | exact absurd rfl h

end Flags

end Lr35902
