import Lr35902.Flags
import Lr35902.Word

/-!
# Registers

The register file: seven byte registers, the flags, the stack pointer and the program counter.
Byte registers pair up to words; the partner of `A` is the flag byte.
-/

namespace Lr35902

inductive Reg8 where
  | a | b | c | d | e | h | l
  deriving DecidableEq, Repr

/-- The word registers an instruction can name. -/
inductive Reg16 where
  | af | bc | de | hl | sp
  deriving DecidableEq, Repr

namespace Reg8

def name : Reg8 → String
  | .a => "A"
  | .b => "B"
  | .c => "C"
  | .d => "D"
  | .e => "E"
  | .h => "H"
  | .l => "L"

end Reg8

namespace Reg16

def name : Reg16 → String
  | .af => "AF"
  | .bc => "BC"
  | .de => "DE"
  | .hl => "HL"
  | .sp => "SP"

end Reg16

@[ext] structure Registers where
  a : UInt8
  flags : Flags
  b : UInt8
  c : UInt8
  d : UInt8
  e : UInt8
  h : UInt8
  l : UInt8
  sp : UInt16
  pc : UInt16
  deriving DecidableEq, Repr

namespace Registers

/-- The register file as the boot program leaves it. -/
def postBoot : Registers where
  a := 0x01
  flags := Flags.ofByte 0xB0
  b := 0x00
  c := 0x13
  d := 0x00
  e := 0xD8
  h := 0x01
  l := 0x4D
  sp := 0xFFFE
  pc := 0x0100

def get (r : Registers) : Reg8 → UInt8
  | .a => r.a
  | .b => r.b
  | .c => r.c
  | .d => r.d
  | .e => r.e
  | .h => r.h
  | .l => r.l

def set (r : Registers) (reg : Reg8) (v : UInt8) : Registers :=
  match reg with
  | .a => { r with a := v }
  | .b => { r with b := v }
  | .c => { r with c := v }
  | .d => { r with d := v }
  | .e => { r with e := v }
  | .h => { r with h := v }
  | .l => { r with l := v }

def af (r : Registers) : UInt16 := Word.ofBytes r.a r.flags.toByte

def bc (r : Registers) : UInt16 := Word.ofBytes r.b r.c

def de (r : Registers) : UInt16 := Word.ofBytes r.d r.e

def hl (r : Registers) : UInt16 := Word.ofBytes r.h r.l

def setHl (r : Registers) (v : UInt16) : Registers :=
  { r with h := Word.high v, l := Word.low v }

def getPair (r : Registers) : Reg16 → UInt16
  | .af => r.af
  | .bc => r.bc
  | .de => r.de
  | .hl => r.hl
  | .sp => r.sp

/-- Writes a word register; of a word written to `AF`, the low four bits are lost. -/
def setPair (r : Registers) (reg : Reg16) (v : UInt16) : Registers :=
  match reg with
  | .af => { r with a := Word.high v, flags := Flags.ofByte (Word.low v) }
  | .bc => { r with b := Word.high v, c := Word.low v }
  | .de => { r with d := Word.high v, e := Word.low v }
  | .hl => r.setHl v
  | .sp => { r with sp := v }

@[simp] theorem get_set_self (r : Registers) (reg : Reg8) (v : UInt8) :
    (r.set reg v).get reg = v := by
  cases reg <;> rfl

theorem get_set_of_ne (r : Registers) {reg other : Reg8} (v : UInt8) (h : other ≠ reg) :
    (r.set reg v).get other = r.get other := by
  cases reg <;> cases other <;> first | rfl | exact absurd rfl h

@[simp] theorem hl_setHl (r : Registers) (v : UInt16) : (r.setHl v).hl = v := by
  simp [setHl, hl]

theorem getPair_setPair_self (r : Registers) {reg : Reg16} (v : UInt16) (h : reg ≠ .af) :
    (r.setPair reg v).getPair reg = v := by
  cases reg <;> first | exact absurd rfl h | simp [setPair, getPair, bc, de]

end Registers

end Lr35902
