import Lr35902.Event
import Lr35902.Machine
import Lr35902.Snapshot

/-!
# The processor

A machine with an opcode register, a counter and a life of its own, which ends when it halts.
Halting is final; what the processor looked like at that moment is kept as a snapshot.
-/

namespace Lr35902

inductive Status where
  | running
  | halted (record : Snapshot)
  deriving DecidableEq, Repr

@[ext] structure Cpu extends Machine where
  /-- The last opcode byte fetched. -/
  opcode : UInt8
  opcodeAddress : UInt16
  /-- Whether the opcode register holds the second byte of a two-byte opcode. -/
  prefixed : Bool
  /-- How many instructions have been completed. The count has 64 bits, taken to be enough. -/
  executed : Nat
  status : Status

namespace Cpu

/-- A processor at the end of the boot program, with the given memory. -/
def ofMemory (mem : Memory) : Cpu where
  regs := .postBoot
  mem := mem
  ime := false
  opcode := 0
  opcodeAddress := 0
  prefixed := false
  executed := 0
  status := .running

def fresh : Cpu := ofMemory .blank

def ofImage (bytes : List UInt8) : Cpu := ofMemory (.ofImage bytes)

/-- The snapshot taken when the processor halted. -/
def haltRecord? (c : Cpu) : Option Snapshot :=
  match c.status with
  | .running => none
  | .halted record => some record

def isHalted (c : Cpu) : Bool := c.haltRecord?.isSome

def reason? (c : Cpu) : Option HaltReason := c.haltRecord?.bind (·.reason)

/-- The processor as it stands, with a reason for having halted or without one. -/
def capture (c : Cpu) (reason : Option HaltReason) : Snapshot :=
  .capture c.regs reason c.opcode c.opcodeAddress c.prefixed c.executed

/-- The snapshot of the halt, or of the present state as long as there was none. -/
def snapshot (c : Cpu) : Snapshot := c.haltRecord?.getD (c.capture none)

/-- Halts the processor; one that has halted before keeps its record. -/
def halt (c : Cpu) (reason : HaltReason) : Cpu :=
  if c.isHalted then c else { c with status := .halted (c.capture (some reason)) }

/-- Halts on a fault. The opcode that is no instruction goes into the opcode register. -/
def fail (c : Cpu) (fault : Fault) : Cpu :=
  let c :=
    match fault with
    | .unknownOpcode opcode address prefixed =>
      { c with opcode := opcode, opcodeAddress := address, prefixed := prefixed }
    | _ => c
  c.halt fault.reason

end Cpu

end Lr35902
