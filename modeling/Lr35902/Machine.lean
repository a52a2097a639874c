import Lr35902.Fault
import Lr35902.Memory
import Lr35902.Registers

/-!
# The machine

What instructions work on: registers, memory and the interrupt switch. Reading an operand, a push
or pop and a relative jump fail where they would take their pointer round the end of memory. The
stack grows downward.
-/

namespace Lr35902

/-- A byte an instruction can read and write: a register, or the cell that `HL` points to. -/
inductive Operand where
  | reg (r : Reg8)
  | atHl
  deriving DecidableEq, Repr

@[ext] structure Machine where
  regs : Registers
  mem : Memory
  /-- Whether interrupts are switched on. None is ever dispatched. -/
  ime : Bool

namespace Machine

def readOperand (m : Machine) : Operand → UInt8
  | .reg r => m.regs.get r
  | .atHl => m.mem.read m.regs.hl

def writeOperand (m : Machine) (o : Operand) (v : UInt8) : Machine :=
  match o with
  | .reg r => { m with regs := m.regs.set r v }
  | .atHl => { m with mem := m.mem.write m.regs.hl v }

def store (m : Machine) (a : UInt16) (v : UInt8) : Machine :=
  { m with mem := m.mem.write a v }

def loadAccumulator (m : Machine) (a : UInt16) : Machine :=
  { m with regs := { m.regs with a := m.mem.read a } }

def setFlags (m : Machine) (f : Flags) : Machine :=
  { m with regs := { m.regs with flags := f } }

def setPair (m : Machine) (pair : Reg16) (w : UInt16) : Machine :=
  { m with regs := m.regs.setPair pair w }

def jump (m : Machine) (target : UInt16) : Machine :=
  { m with regs := { m.regs with pc := target } }

/-- Writes a result to the accumulator, with its flags. -/
def setAccumulator (m : Machine) (r : UInt8 × Flags) : Machine :=
  { m with regs := { m.regs with a := r.1, flags := r.2 } }

def setOperand (m : Machine) (o : Operand) (r : UInt8 × Flags) : Machine :=
  (m.setFlags r.2).writeOperand o r.1

/-! ### What can fail -/

/-- What works on a machine and may fail. What was done before the failure is not undone. -/
abbrev Effect := ExceptT Fault (StateM Machine)

namespace Effect

/-- What comes of an effect, and the machine it leaves. -/
def on {α : Type} (x : Effect α) (m : Machine) : Except Fault α × Machine := x.run.run m

def update (f : Machine → Machine) : Effect Unit := modify f

def orFault {α : Type} (fault : Fault) : Option α → Effect α
  | some a => pure a
  | none => throw fault

end Effect

open Effect

/-- The byte at the program counter, which moves past it. -/
def operandByte : Effect UInt8 := do
  let pc := (← get).regs.pc
  let byte := (← get).mem.read pc
  let next ← orFault (.pcOverflow pc) (Word.succ? pc)
  update (·.jump next)
  return byte

/-- The word at the program counter, low byte first. -/
def operandWord : Effect UInt16 := do
  let low ← operandByte
  let high ← operandByte
  return high.toUInt16 <<< 8 ||| low.toUInt16

/-- Pushes a word: high byte first, so that the low byte lies at the lower address. -/
def push (w : UInt16) : Effect Unit := do
  let sp := (← get).regs.sp
  let high ← orFault (.stackOverflow sp) (Word.pred? sp)
  let low ← orFault (.stackOverflow sp) (Word.pred? high)
  update (·.store high (Word.high w))
  update (·.store low (Word.low w))
  update (·.setPair .sp low)

def pop : Effect UInt16 := do
  let sp := (← get).regs.sp
  let above ← orFault (.stackUnderflow sp) (Word.succ? sp)
  let next ← orFault (.stackUnderflow sp) (Word.succ? above)
  let low := (← get).mem.read sp
  let high := (← get).mem.read above
  update (·.setPair .sp next)
  return Word.ofBytes high low

def pushPair (pair : Reg16) : Effect Unit := do
  push ((← get).regs.getPair pair)

def popPair (pair : Reg16) : Effect Unit := do
  let w ← pop
  update (·.setPair pair w)

def jumpRelative (offset : UInt8) : Effect Unit := do
  let pc := (← get).regs.pc
  let target ← orFault (.pcOverflow pc) (Word.addOffset? pc offset)
  update (·.jump target)

/-- Pushes the program counter and jumps. -/
def call (target : UInt16) : Effect Unit := do
  push (← get).regs.pc
  update (·.jump target)

/-- Jumps to a word from the stack. -/
def ret : Effect Unit := do
  let target ← pop
  update (·.jump target)

end Machine

end Lr35902
