import Lr35902.Machine

/-!
# Instructions

The instruction set, one constructor for each form, with the operands an instruction carries. A
byte operand `n` is a value, `offset` a byte taken as signed, a word operand `nn` a value or an
address.
-/

namespace Lr35902

/-- When a conditional jump, call or return is taken. -/
inductive Condition where
  | notZero | zero | notCarry | carry
  deriving DecidableEq, Repr

/-- The eight operations on the accumulator and a byte. -/
inductive AluOp where
  | add | adc | sub | sbc | and | xor | or | cp
  deriving DecidableEq, Repr

/-- The eight rotations and shifts of a byte. -/
inductive ShiftOp where
  | rlc | rrc | rl | rr | sla | sra | swap | srl
  deriving DecidableEq, Repr

/-- Where the accumulator is loaded from or stored to through a pair; `HL` moves afterwards. -/
inductive Pointer where
  | bc | de | hlUp | hlDown
  deriving DecidableEq, Repr

/-- The instructions of the page behind opcode `CB`. -/
inductive CbInstr where
  | shift (op : ShiftOp) (target : Operand)
  | test (bit : Fin 8) (target : Operand)
  | reset (bit : Fin 8) (target : Operand)
  | set (bit : Fin 8) (target : Operand)
  deriving DecidableEq, Repr

inductive Instr where
  | nop
  | stop
  | halt
  | disableInterrupts
  | enableInterrupts
  | load (target source : Operand)
  | loadImm (target : Operand) (n : UInt8)
  | loadFrom (p : Pointer)
  | storeTo (p : Pointer)
  | loadAt (nn : UInt16)
  | storeAt (nn : UInt16)
  | loadHigh (n : UInt8)
  | storeHigh (n : UInt8)
  | loadHighC
  | storeHighC
  | loadPair (pair : Reg16) (nn : UInt16)
  | storeSp (nn : UInt16)
  | loadSpHl
  | loadHlSp (offset : UInt8)
  | addSp (offset : UInt8)
  | push (pair : Reg16)
  | pop (pair : Reg16)
  | alu (op : AluOp) (source : Operand)
  | aluImm (op : AluOp) (n : UInt8)
  | inc (target : Operand)
  | dec (target : Operand)
  | incPair (pair : Reg16)
  | decPair (pair : Reg16)
  | addHl (pair : Reg16)
  | rlca
  | rrca
  | rla
  | rra
  | daa
  | cpl
  | scf
  | ccf
  | jp (nn : UInt16)
  | jpIf (cc : Condition) (nn : UInt16)
  | jpHl
  | jr (offset : UInt8)
  | jrIf (cc : Condition) (offset : UInt8)
  | call (nn : UInt16)
  | callIf (cc : Condition) (nn : UInt16)
  | ret
  | retIf (cc : Condition)
  | reti
  | rst (slot : Fin 8)
  | cb (i : CbInstr)
  /-- An opcode that is no instruction. -/
  | illegal (opcode : UInt8)
  deriving DecidableEq, Repr

end Lr35902
