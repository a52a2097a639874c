import Lr35902.Alu
import Lr35902.Instr.Basic

/-!
# Operations

What the conditions, operations and pointers in an opcode stand for.
-/

namespace Lr35902

def Condition.holds (f : Flags) : Condition → Bool
  | .notZero => !f.zero
  | .zero => f.zero
  | .notCarry => !f.carry
  | .carry => f.carry

/-- The accumulator and flags after the operation on accumulator `a` and byte `v`. -/
def AluOp.apply (f : Flags) (a v : UInt8) : AluOp → UInt8 × Flags
  | .add => Alu.add a v
  | .adc => Alu.adc f a v
  | .sub => Alu.sub a v
  | .sbc => Alu.sbc f a v
  | .and => Alu.and a v
  | .xor => Alu.xor a v
  | .or => Alu.or a v
  | .cp => (a, Alu.compare a v)

def ShiftOp.apply (f : Flags) (v : UInt8) : ShiftOp → UInt8 × Flags
  | .rlc => Alu.rlc v
  | .rrc => Alu.rrc v
  | .rl => Alu.rl f v
  | .rr => Alu.rr f v
  | .sla => Alu.sla v
  | .sra => Alu.sra v
  | .swap => Alu.swap v
  | .srl => Alu.srl v

namespace Machine

/-- The address a pointer stands for. -/
def address (m : Machine) : Pointer → UInt16
  | .bc => m.regs.bc
  | .de => m.regs.de
  | .hlUp | .hlDown => m.regs.hl

/-- Moves `HL` after an access through it. -/
def movePointer (m : Machine) : Pointer → Machine
  | .bc | .de => m
  | .hlUp => { m with regs := m.regs.setHl (m.regs.hl + 1) }
  | .hlDown => { m with regs := m.regs.setHl (m.regs.hl - 1) }

def applyAlu (m : Machine) (op : AluOp) (v : UInt8) : Machine :=
  m.setAccumulator (op.apply m.regs.flags m.regs.a v)

/-- A rotation of the accumulator always clears the zero flag. -/
def rotateAccumulator (m : Machine) (op : ShiftOp) : Machine :=
  let r := op.apply m.regs.flags m.regs.a
  m.setAccumulator (r.1, { r.2 with zero := false })

def whenHolds (cc : Condition) (e : Effect Unit) : Effect Unit := do
  if cc.holds (← get).regs.flags then
    e

end Machine

end Lr35902
