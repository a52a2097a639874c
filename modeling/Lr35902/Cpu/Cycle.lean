import Lr35902.Cpu.Handler

/-!
# The instruction cycle

A running processor fetches the byte at the program counter and does what the table has for it. A
completed instruction is counted; a fault halts the processor.
-/

namespace Lr35902

/-- The two pages of the opcode table. -/
inductive OpcodePage where
  | base
  | cb
  deriving DecidableEq, Repr

def OpcodePage.action (opcode : UInt8) : OpcodePage → Action Unit
  | .base => (baseTable.entry opcode).run opcode
  | .cb => (cbTable.entry opcode).run opcode

namespace Cpu

/-- Executes an opcode outside the instruction cycle. Completed instructions are not counted, and
a fault is handed back instead of halting the processor. -/
def invokeLogged (page : OpcodePage) (opcode : UInt8) (c : Cpu) :
    Logged (Except Fault Unit × Cpu) :=
  (page.action opcode).on c

/-- Reads the opcode at the program counter and moves on. -/
def fetchLogged (c : Cpu) : Logged Cpu := do
  if c.isHalted then
    return c
  let pc := c.regs.pc
  let c := { c with opcode := c.mem.read pc, opcodeAddress := pc, prefixed := false }
  match Word.succ? pc with
  | some next => return { c with toMachine := c.jump next }
  | none =>
    Logged.report (.haltedByFault (.pcOverflow pc))
    return c.fail (.pcOverflow pc)

/-- Executes the instruction in the opcode register. -/
def decodeLogged (c : Cpu) : Logged Cpu := do
  if c.isHalted then
    return c
  Logged.report (.execute c.opcodeAddress c.opcode c.regs.a c.regs.flags.toByte)
  match ← c.invokeLogged .base c.opcode with
  | (.ok (), c) => return if c.isHalted then c else { c with executed := c.executed + 1 }
  | (.error fault, c) =>
    Logged.report (.haltedByFault fault)
    return c.fail fault

/-- One instruction cycle. -/
def stepLogged (c : Cpu) : Logged Cpu := c.fetchLogged.andThen decodeLogged

def fetch (c : Cpu) : Cpu := c.fetchLogged.value

def decode (c : Cpu) : Cpu := c.decodeLogged.value

def step (c : Cpu) : Cpu := c.stepLogged.value

theorem step_eq (c : Cpu) : c.step = c.fetch.decode := rfl

end Cpu

end Lr35902
