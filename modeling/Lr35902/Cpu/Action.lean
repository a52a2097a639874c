import Lr35902.Cpu.Basic

/-!
# Actions

What the handlers of the opcodes are made of. An action works on the processor step by step; it
may fail on the way and reports events as they happen. A fault does not take back what was done
before it, so a handler that is to leave no trace when it fails has to check before it writes.
-/

namespace Lr35902

abbrev Action := ExceptT Fault (StateT Cpu Logged)

namespace Action

/-- What comes of an action, and the processor it leaves. -/
def on {α : Type} (x : Action α) (c : Cpu) : Logged (Except Fault α × Cpu) := x.run.run c

def ofEffect {α : Type} (x : Machine.Effect α) : Action α :=
  ExceptT.mk fun c =>
    let (result, m) := x.on c.toMachine
    ⟨(result, { c with toMachine := m }), []⟩

instance : MonadLift Machine.Effect Action := ⟨ofEffect⟩

/-- Halts the processor for good. -/
def enterHalt (reason : HaltReason) : Action Unit := do
  let c ← getThe Cpu
  Logged.report (.haltedByInstruction reason c.regs.pc)
  modifyThe Cpu (·.halt reason)

/-- Puts the second byte of a two-byte opcode into the opcode register. -/
def beginPrefixed (opcode : UInt8) (address : UInt16) : Action Unit :=
  modifyThe Cpu fun c =>
    { c with opcode := opcode, opcodeAddress := address, prefixed := true }

end Action

end Lr35902
