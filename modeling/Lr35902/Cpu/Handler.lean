import Lr35902.Cpu.Action
import Lr35902.Cpu.Table
import Lr35902.Instr.Operation

/-!
# Handlers

What is done for an opcode, operand by operand and write by write. Instructions of one family share
a handler, which takes its operands from the fields of the opcode; the tables say which handler
serves which opcode.
-/

namespace Lr35902

open Machine (operandByte operandWord whenHolds)
open Machine.Effect (update)

/-! ### The second page -/

inductive CbHandler where
  | shift | test | reset | set
  deriving DecidableEq, Repr

def CbHandler.run (op : UInt8) : CbHandler → Action Unit
  | .shift => do
    let target := Operand.ofBits op.toNat
    let shift := ShiftOp.ofBits (Opcode.upper op)
    update fun m => m.setOperand target (shift.apply m.regs.flags (m.readOperand target))
  | .test => do
    let bit := UInt8.ofNat (Opcode.upper op)
    update fun m =>
      m.setFlags (Alu.testBit m.regs.flags bit (m.readOperand (.ofBits op.toNat)))
  | .reset => do
    let target := Operand.ofBits op.toNat
    let bit := UInt8.ofNat (Opcode.upper op)
    update fun m => m.writeOperand target (Alu.resetBit bit (m.readOperand target))
  | .set => do
    let target := Operand.ofBits op.toNat
    let bit := UInt8.ofNat (Opcode.upper op)
    update fun m => m.writeOperand target (Alu.setBit bit (m.readOperand target))

def cbTable : Table CbHandler :=
  (Table.fill .shift)
    |>.putRange 0x40 0x7F .test
    |>.putRange 0x80 0xBF .reset
    |>.putRange 0xC0 0xFF .set

/-! ### The first page -/

inductive Handler where
  | unknown
  | nop
  | halt
  | stop
  | disableInterrupts
  | enableInterrupts
  | prefixed
  | load
  | loadImm
  | storeTo (p : Pointer)
  | loadFrom (p : Pointer)
  | storeAt
  | loadAt
  | storeHigh
  | loadHigh
  | storeHighC
  | loadHighC
  | loadPair
  | storeSp
  | loadSpHl
  | loadHlSp
  | push
  | pop
  | alu
  | aluImm
  | inc
  | dec
  | daa
  | cpl
  | scf
  | ccf
  | incPair
  | decPair
  | addHl
  | addSp
  | rlca
  | rrca
  | rla
  | rra
  | jp
  | jpIf
  | jpHl
  | jr
  | jrIf
  | call
  | callIf
  | ret
  | retIf
  | reti
  | rst
  deriving DecidableEq, Repr

namespace Handler

/-- What a handler does, given the opcode. The program counter stands behind it. -/
def run (op : UInt8) : Handler → Action Unit
  | .unknown => do
    throw (.unknownOpcode op ((← getThe Cpu).regs.pc - 1) false)
  | .nop => pure ()
  | .halt => Action.enterHalt .haltInstruction
  | .stop => do
    -- The byte behind the opcode is padding.
    let _ ← operandByte
    Action.enterHalt .stopInstruction
  | .disableInterrupts => update fun m => { m with ime := false }
  | .enableInterrupts => update fun m => { m with ime := true }
  | .prefixed => do
    let address := (← getThe Cpu).regs.pc
    let opcode ← operandByte
    Action.beginPrefixed opcode address
    (cbTable.entry opcode).run opcode
  | .load =>
    update fun m => m.writeOperand (.ofBits (Opcode.upper op)) (m.readOperand (.ofBits op.toNat))
  | .loadImm => do
    let n ← operandByte
    update (·.writeOperand (.ofBits (Opcode.upper op)) n)
  | .storeTo p => update fun m => (m.store (m.address p) m.regs.a).movePointer p
  | .loadFrom p => update fun m => (m.loadAccumulator (m.address p)).movePointer p
  | .storeAt => do
    let a ← operandWord
    update fun m => m.store a m.regs.a
  | .loadAt => do
    let a ← operandWord
    update (·.loadAccumulator a)
  | .storeHigh => do
    let n ← operandByte
    update fun m => m.store (Memory.ioAddress n) m.regs.a
  | .loadHigh => do
    let n ← operandByte
    update (·.loadAccumulator (Memory.ioAddress n))
  | .storeHighC => update fun m => m.store (Memory.ioAddress m.regs.c) m.regs.a
  | .loadHighC => update fun m => m.loadAccumulator (Memory.ioAddress m.regs.c)
  | .loadPair => do
    let w ← operandWord
    update (·.setPair (.ofBits (Opcode.pair op)) w)
  | .storeSp => do
    let a ← operandWord
    update fun m => m.store a (Word.low m.regs.sp)
    update fun m => m.store (a + 1) (Word.high m.regs.sp)
  | .loadSpHl => update fun m => m.setPair .sp m.regs.hl
  | .loadHlSp => do
    let offset ← operandByte
    update fun m =>
      let r := Alu.addOffset m.regs.sp offset
      (m.setFlags r.2).setPair .hl r.1
  | .push => Machine.pushPair (.ofStackBits (Opcode.pair op))
  | .pop => Machine.popPair (.ofStackBits (Opcode.pair op))
  | .alu =>
    update fun m => m.applyAlu (.ofBits (Opcode.upper op)) (m.readOperand (.ofBits op.toNat))
  | .aluImm => do
    let n ← operandByte
    update (·.applyAlu (.ofBits (Opcode.upper op)) n)
  | .inc => do
    let target := Operand.ofBits (Opcode.upper op)
    update fun m => m.setOperand target (Alu.inc m.regs.flags (m.readOperand target))
  | .dec => do
    let target := Operand.ofBits (Opcode.upper op)
    update fun m => m.setOperand target (Alu.dec m.regs.flags (m.readOperand target))
  | .daa => update fun m => m.setAccumulator (Alu.daa m.regs.flags m.regs.a)
  | .cpl => update fun m => m.setAccumulator (Alu.complement m.regs.flags m.regs.a)
  | .scf =>
    update fun m =>
      m.setFlags { m.regs.flags with subtract := false, halfCarry := false, carry := true }
  | .ccf =>
    update fun m =>
      m.setFlags
        { m.regs.flags with subtract := false, halfCarry := false, carry := !m.regs.flags.carry }
  | .incPair => do
    let pair := Reg16.ofBits (Opcode.pair op)
    update fun m => m.setPair pair (m.regs.getPair pair + 1)
  | .decPair => do
    let pair := Reg16.ofBits (Opcode.pair op)
    update fun m => m.setPair pair (m.regs.getPair pair - 1)
  | .addHl =>
    update fun m =>
      let r := Alu.addWords m.regs.flags m.regs.hl (m.regs.getPair (.ofBits (Opcode.pair op)))
      (m.setFlags r.2).setPair .hl r.1
  | .addSp => do
    let offset ← operandByte
    update fun m =>
      let r := Alu.addOffset m.regs.sp offset
      (m.setFlags r.2).setPair .sp r.1
  | .rlca => update (·.rotateAccumulator .rlc)
  | .rrca => update (·.rotateAccumulator .rrc)
  | .rla => update (·.rotateAccumulator .rl)
  | .rra => update (·.rotateAccumulator .rr)
  | .jp => do
    let target ← operandWord
    update (·.jump target)
  | .jpIf => do
    -- The operand is consumed whether or not the jump is taken.
    let target ← operandWord
    whenHolds (.ofBits (Opcode.upper op)) (update (·.jump target))
  | .jpHl => update fun m => m.jump m.regs.hl
  | .jr => do
    let offset ← operandByte
    Machine.jumpRelative offset
  | .jrIf => do
    let offset ← operandByte
    whenHolds (.ofBits (Opcode.upper op - 4)) (Machine.jumpRelative offset)
  | .call => do
    let target ← operandWord
    Machine.call target
  | .callIf => do
    let target ← operandWord
    whenHolds (.ofBits (Opcode.upper op)) (Machine.call target)
  | .ret => Machine.ret
  | .retIf => whenHolds (.ofBits (Opcode.upper op)) Machine.ret
  | .reti => do
    Machine.ret
    update fun m => { m with ime := true }
  | .rst => Machine.call (op &&& 0x38).toUInt16

end Handler

def baseTable : Table Handler :=
  (Table.fill .unknown)
    -- 0x00 to 0x3F
    |>.put [0x00] .nop
    |>.put [0x08] .storeSp
    |>.put [0x10] .stop
    |>.put [0x18] .jr
    |>.put [0x20, 0x28, 0x30, 0x38] .jrIf
    |>.put [0x01, 0x11, 0x21, 0x31] .loadPair
    |>.put [0x03, 0x13, 0x23, 0x33] .incPair
    |>.put [0x09, 0x19, 0x29, 0x39] .addHl
    |>.put [0x0B, 0x1B, 0x2B, 0x3B] .decPair
    |>.put [0x02] (.storeTo .bc)
    |>.put [0x12] (.storeTo .de)
    |>.put [0x22] (.storeTo .hlUp)
    |>.put [0x32] (.storeTo .hlDown)
    |>.put [0x0A] (.loadFrom .bc)
    |>.put [0x1A] (.loadFrom .de)
    |>.put [0x2A] (.loadFrom .hlUp)
    |>.put [0x3A] (.loadFrom .hlDown)
    |>.put (Opcode.column 0x00 4 8) .inc
    |>.put (Opcode.column 0x00 5 8) .dec
    |>.put (Opcode.column 0x00 6 8) .loadImm
    |>.put [0x07] .rlca
    |>.put [0x0F] .rrca
    |>.put [0x17] .rla
    |>.put [0x1F] .rra
    |>.put [0x27] .daa
    |>.put [0x2F] .cpl
    |>.put [0x37] .scf
    |>.put [0x3F] .ccf
    -- 0x40 to 0x7F
    |>.putRange 0x40 0x7F .load
    |>.put [0x76] .halt
    -- 0x80 to 0xBF
    |>.putRange 0x80 0xBF .alu
    -- 0xC0 to 0xFF
    |>.put (Opcode.column 0xC0 0 4) .retIf
    |>.put (Opcode.column 0xC0 2 4) .jpIf
    |>.put (Opcode.column 0xC0 4 4) .callIf
    |>.put [0xC1, 0xD1, 0xE1, 0xF1] .pop
    |>.put [0xC5, 0xD5, 0xE5, 0xF5] .push
    |>.put (Opcode.column 0xC0 6 8) .aluImm
    |>.put (Opcode.column 0xC0 7 8) .rst
    |>.put [0xC3] .jp
    |>.put [0xC9] .ret
    |>.put [0xCB] .prefixed
    |>.put [0xCD] .call
    |>.put [0xD9] .reti
    |>.put [0xE0] .storeHigh
    |>.put [0xF0] .loadHigh
    |>.put [0xE2] .storeHighC
    |>.put [0xF2] .loadHighC
    |>.put [0xE8] .addSp
    |>.put [0xF8] .loadHlSp
    |>.put [0xE9] .jpHl
    |>.put [0xF9] .loadSpHl
    |>.put [0xEA] .storeAt
    |>.put [0xFA] .loadAt
    |>.put [0xF3] .disableInterrupts
    |>.put [0xFB] .enableInterrupts

end Lr35902
