import Lr35902.Instr.Basic

/-!
# Opcodes

The fields of an opcode and what is known about it without the bytes behind it. An opcode splits
into a two-bit block and two three-bit fields; the upper field also reads as a pair number and a
variant bit.
-/

namespace Lr35902

/-- The operand in the low three bits of a number. -/
def Operand.ofBits (bits : Nat) : Operand :=
  match bits % 8 with
  | 0 => .reg .b
  | 1 => .reg .c
  | 2 => .reg .d
  | 3 => .reg .e
  | 4 => .reg .h
  | 5 => .reg .l
  | 6 => .atHl
  | _ => .reg .a

def Condition.ofBits (bits : Nat) : Condition :=
  match bits % 4 with
  | 0 => .notZero
  | 1 => .zero
  | 2 => .notCarry
  | _ => .carry

/-- The pair of that number, for loads and arithmetic. -/
def Reg16.ofBits : Nat → Reg16
  | 0 => .bc
  | 1 => .de
  | 2 => .hl
  | _ => .sp

/-- The pair of that number, for the stack. -/
def Reg16.ofStackBits : Nat → Reg16
  | 0 => .bc
  | 1 => .de
  | 2 => .hl
  | _ => .af

def AluOp.ofBits : Nat → AluOp
  | 0 => .add
  | 1 => .adc
  | 2 => .sub
  | 3 => .sbc
  | 4 => .and
  | 5 => .xor
  | 6 => .or
  | _ => .cp

def ShiftOp.ofBits : Nat → ShiftOp
  | 0 => .rlc
  | 1 => .rrc
  | 2 => .rl
  | 3 => .rr
  | 4 => .sla
  | 5 => .sra
  | 6 => .swap
  | _ => .srl

namespace Opcode

/-- The block of an opcode, its top two bits. -/
def block (op : UInt8) : Nat := op.toNat / 64

/-- The middle three bits of an opcode. -/
def upper (op : UInt8) : Fin 8 := ⟨op.toNat / 8 % 8, Nat.mod_lt _ (by decide)⟩

def lower (op : UInt8) : Nat := op.toNat % 8

def pair (op : UInt8) : Nat := op.toNat / 16 % 4

/-- The opcodes that are no instruction. -/
def undefined : List Nat :=
  [0xD3, 0xDB, 0xDD, 0xE3, 0xE4, 0xEB, 0xEC, 0xED, 0xF4, 0xFC, 0xFD]

def isUndefined (op : UInt8) : Bool := undefined.contains op.toNat

/-- How many bytes the instruction with this opcode takes up. -/
def length (op : UInt8) : Nat :=
  let n := op.toNat
  if n = 0xCB then 2
  else if n ∈ [0x10, 0x18, 0x20, 0x28, 0x30, 0x38, 0xE0, 0xE8, 0xF0, 0xF8] then 2
  else if n < 0x40 ∧ lower op = 6 then 2
  else if 0xC0 ≤ n ∧ lower op = 6 then 2
  else if n ∈ [0x01, 0x11, 0x21, 0x31, 0x08, 0xEA, 0xFA] then 3
  else if n ∈ [0xC2, 0xC3, 0xC4, 0xCA, 0xCC, 0xCD, 0xD2, 0xD4, 0xDA, 0xDC] then 3
  else 1

theorem length_pos (op : UInt8) : 0 < length op := by
  simp only [length]
  repeat' split
  all_goals decide

theorem length_le (op : UInt8) : length op ≤ 3 := by
  simp only [length]
  repeat' split
  all_goals decide

end Opcode

end Lr35902
