import Lr35902.Cpu.Run
import Lr35902.Proofs.Decoding
import Lr35902.Proofs.Effects

/-!
# Outcomes

An instruction taken as a whole. `verdict` says from the registers alone whether it completes, halts
or fails, and `exec` is the effect of one that completes; `Cpu.carry` puts both behind the reading
of the operands. The handlers do the same piece by piece (`Handler.on_run` in
`Lr35902.Proofs.Handlers`).
-/

namespace Lr35902

namespace Machine

/-- Pushes the program counter where there is room for it, and jumps. -/
def callWord (m : Machine) (target : UInt16) : Machine := (m.pushWord m.regs.pc).jump target

/-- Takes the top word off the stack and jumps to it. -/
def returnWord (m : Machine) : Machine := m.dropWord.jump m.topWord

end Machine

def CbInstr.exec (m : Machine) : CbInstr → Machine
  | .shift op target => m.setOperand target (op.apply m.regs.flags (m.readOperand target))
  | .test bit target =>
    m.setFlags (Alu.testBit m.regs.flags (UInt8.ofNat bit) (m.readOperand target))
  | .reset bit target =>
    m.writeOperand target (Alu.resetBit (UInt8.ofNat bit) (m.readOperand target))
  | .set bit target => m.writeOperand target (Alu.setBit (UInt8.ofNat bit) (m.readOperand target))

/-- How an attempt to execute an instruction ends. -/
inductive Verdict where
  | completes
  | halts (reason : HaltReason)
  | fails (fault : Fault)
  deriving DecidableEq, Repr

namespace Verdict

/-- A push fails if there is no room for a word. -/
def ofPush (sp : UInt16) : Verdict :=
  if sp.toNat < 2 then .fails (.stackOverflow sp) else .completes

def ofPop (sp : UInt16) : Verdict :=
  if sp.toNat < 0xFFFE then .completes else .fails (.stackUnderflow sp)

/-- A jump by an offset fails if the target is no address. -/
def ofRelativeJump (pc : UInt16) (offset : UInt8) : Verdict :=
  match Word.addOffset? pc offset with
  | some _ => .completes
  | none => .fails (.pcOverflow pc)

/-- What a handler hands back that has come to this verdict. -/
def settle (c : Cpu) : Verdict → Logged (Except Fault Unit × Cpu)
  | .completes => ⟨(.ok (), c), []⟩
  | .halts reason => ⟨(.ok (), c.halt reason), [.haltedByInstruction reason c.regs.pc]⟩
  | .fails fault => ⟨(.error fault, c), []⟩

end Verdict

namespace Instr

/-- How an instruction ends; the program counter stands behind it. -/
def verdict (r : Registers) : Instr → Verdict
  | .halt => .halts .haltInstruction
  | .stop => .halts .stopInstruction
  | .illegal opcode => .fails (.unknownOpcode opcode (r.pc - 1) false)
  | .jr offset => .ofRelativeJump r.pc offset
  | .jrIf cc offset => if cc.holds r.flags then .ofRelativeJump r.pc offset else .completes
  | .push _ | .call _ | .rst _ => .ofPush r.sp
  | .callIf cc _ => if cc.holds r.flags then .ofPush r.sp else .completes
  | .pop _ | .ret | .reti => .ofPop r.sp
  | .retIf cc => if cc.holds r.flags then .ofPop r.sp else .completes
  | _ => .completes

/-- The effect of an instruction that completes; the program counter stands behind it. -/
def exec (m : Machine) : Instr → Machine
  | .nop | .stop | .halt | .illegal _ => m
  | .disableInterrupts => { m with ime := false }
  | .enableInterrupts => { m with ime := true }
  | .load target source => m.writeOperand target (m.readOperand source)
  | .loadImm target n => m.writeOperand target n
  | .loadFrom p => (m.loadAccumulator (m.address p)).movePointer p
  | .storeTo p => (m.store (m.address p) m.regs.a).movePointer p
  | .loadAt nn => m.loadAccumulator nn
  | .storeAt nn => m.store nn m.regs.a
  | .loadHigh n => m.loadAccumulator (Memory.ioAddress n)
  | .storeHigh n => m.store (Memory.ioAddress n) m.regs.a
  | .loadHighC => m.loadAccumulator (Memory.ioAddress m.regs.c)
  | .storeHighC => m.store (Memory.ioAddress m.regs.c) m.regs.a
  | .loadPair pair nn => m.setPair pair nn
  | .storeSp nn => { m with mem := m.mem.writeWord nn m.regs.sp }
  | .loadSpHl => m.setPair .sp m.regs.hl
  | .loadHlSp offset =>
    let r := Alu.addOffset m.regs.sp offset
    (m.setFlags r.2).setPair .hl r.1
  | .addSp offset =>
    let r := Alu.addOffset m.regs.sp offset
    (m.setFlags r.2).setPair .sp r.1
  | .push pair => m.pushWord (m.regs.getPair pair)
  | .pop pair => m.dropWord.setPair pair m.topWord
  | .alu op source => m.applyAlu op (m.readOperand source)
  | .aluImm op n => m.applyAlu op n
  | .inc target => m.setOperand target (Alu.inc m.regs.flags (m.readOperand target))
  | .dec target => m.setOperand target (Alu.dec m.regs.flags (m.readOperand target))
  | .incPair pair => m.setPair pair (m.regs.getPair pair + 1)
  | .decPair pair => m.setPair pair (m.regs.getPair pair - 1)
  | .addHl pair =>
    let r := Alu.addWords m.regs.flags m.regs.hl (m.regs.getPair pair)
    (m.setFlags r.2).setPair .hl r.1
  | .rlca => m.rotateAccumulator .rlc
  | .rrca => m.rotateAccumulator .rrc
  | .rla => m.rotateAccumulator .rl
  | .rra => m.rotateAccumulator .rr
  | .daa => m.setAccumulator (Alu.daa m.regs.flags m.regs.a)
  | .cpl => m.setAccumulator (Alu.complement m.regs.flags m.regs.a)
  | .scf => m.setFlags { m.regs.flags with subtract := false, halfCarry := false, carry := true }
  | .ccf =>
    m.setFlags
      { m.regs.flags with subtract := false, halfCarry := false, carry := !m.regs.flags.carry }
  | .jp nn => m.jump nn
  | .jpIf cc nn => if cc.holds m.regs.flags then m.jump nn else m
  | .jpHl => m.jump m.regs.hl
  | .jr offset => m.jump (Word.addOffset m.regs.pc offset)
  | .jrIf cc offset =>
    if cc.holds m.regs.flags then m.jump (Word.addOffset m.regs.pc offset) else m
  | .call nn => m.callWord nn
  | .callIf cc nn => if cc.holds m.regs.flags then m.callWord nn else m
  | .ret => m.returnWord
  | .retIf cc => if cc.holds m.regs.flags then m.returnWord else m
  | .reti => { m.returnWord with ime := true }
  | .rst slot => m.callWord (8 * UInt16.ofNat slot)
  | .cb i => i.exec m

end Instr

namespace Cpu

/-- An attempt to execute an instruction behind which the program counter stands. -/
def attempt (c : Cpu) (i : Instr) : Cpu × Verdict :=
  match i.verdict c.regs with
  | .completes => ({ c with toMachine := i.exec c.toMachine }, .completes)
  | verdict => (c, verdict)

/-- The processor that has consumed the operands at the program counter. -/
def behind (c : Cpu) (i : Instr) : Cpu :=
  let moved := { c with toMachine := c.jump (UInt16.ofNat (c.regs.pc.toNat + (i.length - 1))) }
  match i with
  | .cb _ =>
    { moved with opcode := c.mem.read c.regs.pc, opcodeAddress := c.regs.pc, prefixed := true }
  | _ => moved

/-- The operands of an instruction consumed and an attempt made to execute it. If they run past the
end of memory, there is no attempt. -/
def carry (c : Cpu) (i : Instr) : Cpu × Verdict :=
  if c.regs.pc.toNat + (i.length - 1) < 65536 then (c.behind i).attempt i
  else ({ c with toMachine := c.jump 0xFFFF }, .fails (.pcOverflow 0xFFFF))

/-- Executes the instruction with the given opcode, whose operands lie at the program counter. -/
def dispatch (c : Cpu) (opcode : UInt8) : Cpu × Verdict :=
  c.carry (.decode opcode (c.mem.read c.regs.pc) (c.mem.readWord c.regs.pc))

/-- Executes the entry of an opcode page. The second byte of a two-byte opcode is given, so its
entry has no operands. -/
def dispatchOn (page : OpcodePage) (c : Cpu) (opcode : UInt8) : Cpu × Verdict :=
  match page with
  | .base => c.dispatch opcode
  | .cb => c.attempt (.cb (.decode opcode))

end Cpu

end Lr35902
