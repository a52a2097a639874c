import Lr35902.Proofs.Footprint
import Lr35902.Proofs.Stack

/-!
# Control transfer

Jumps, calls and returns. Every other instruction leads to the one behind it (`pc_step`). A call
leaves the address behind it on the stack; a return that finds it there leads back to it, with the
stack pointer that the call found, whatever was executed in between (`call_returns`).
-/

namespace Lr35902

namespace Opcode

def absoluteJumps : List Nat := [0xC3, 0xC2, 0xCA, 0xD2, 0xDA, 0xE9]

/-- The opcodes of `CALL`. -/
def calls : List Nat := [0xCD, 0xC4, 0xCC, 0xD4, 0xDC]

/-- The opcodes of `RST`. -/
def restarts : List Nat := [0xC7, 0xCF, 0xD7, 0xDF, 0xE7, 0xEF, 0xF7, 0xFF]

/-- The opcodes of `RET` and `RETI`. -/
def returns : List Nat := [0xC9, 0xD9, 0xC0, 0xC8, 0xD0, 0xD8]

/-- The opcodes of all jumps, calls and returns. -/
def transferring : List Nat := absoluteJumps ++ relativeJumps ++ calls ++ restarts ++ returns

/-- Where the call with this opcode leads that starts the word `nn`: a restart leads to the address
in the middle bits of its opcode. -/
def callTarget? (op : UInt8) (nn : UInt16) : Option UInt16 :=
  if op.toNat ∈ calls then some nn
  else if op.toNat ∈ restarts then some (op &&& 0x38).toUInt16
  else none

theorem length_of_mem_returns (op : UInt8) (h : op.toNat ∈ returns) : length op = 1 :=
  forall_of_mem op h (by decide)

end Opcode

namespace Instr

/-- Whether an instruction leads elsewhere if it is taken. -/
def transfers : Instr → Bool
  | .jp _ | .jpIf .. | .jpHl | .jr _ | .jrIf .. | .call _ | .callIf .. | .rst _ | .ret | .retIf _
  | .reti => true
  | _ => false

def callTarget? : Instr → Option UInt16
  | .call nn | .callIf _ nn => some nn
  | .rst slot => some (8 * UInt16.ofNat slot)
  | _ => none

def isReturn : Instr → Bool
  | .ret | .retIf _ | .reti => true
  | _ => false

theorem mem_of_transfers {op n : UInt8} {nn : UInt16} (h : (decode op n nn).transfers = true) :
    op.toNat ∈ Opcode.transferring := by
  have all : ∀ op, (decode op 0 0).transfers = true → op.toNat ∈ Opcode.transferring := by
    decide +kernel
  rw [decode_eq_withOperands] at h
  apply all
  generalize decode op 0 0 = i at h
  cases i <;> first | rfl | cases h

theorem isReturn_of_mem {op : UInt8} (n : UInt8) (nn : UInt16) (h : op.toNat ∈ Opcode.returns) :
    (decode op n nn).isReturn = true := by
  have hi : (decode op 0 0).isReturn = true := Opcode.forall_of_mem op h (by decide)
  rw [decode_eq_withOperands]
  generalize decode op 0 0 = i at hi
  cases i <;> first | rfl | cases hi

/-- Only a restart, which takes up one byte, has its target in the opcode. -/
theorem callTarget?_withOperands (n : UInt8) (nn : UInt16) (i : Instr) :
    (i.withOperands n nn).callTarget? =
      if i.length = 3 then i.callTarget?.map fun _ => nn else i.callTarget? := by
  cases i <;> rfl

theorem callTarget?_of_opcode {op : UInt8} {nn target : UInt16} (n : UInt8)
    (h : Opcode.callTarget? op nn = some target) :
    (decode op n nn).callTarget? = some target := by
  rw [decode_eq_withOperands, callTarget?_withOperands, ← h]
  unfold Opcode.callTarget? at h ⊢
  by_cases hcall : op.toNat ∈ Opcode.calls
  · obtain ⟨hlen, hi⟩ : (decode op 0 0).length = 3 ∧ (decode op 0 0).callTarget? = some 0 :=
      Opcode.forall_of_mem op hcall (by decide)
    rw [if_pos hlen, hi, if_pos hcall]
    rfl
  · by_cases hrestart : op.toNat ∈ Opcode.restarts
    · obtain ⟨hlen, hi⟩ : (decode op 0 0).length ≠ 3 ∧
          (decode op 0 0).callTarget? = some (op &&& 0x38).toUInt16 :=
        Opcode.forall_of_mem op hrestart (by decide)
      rw [if_neg hlen, hi, if_neg hcall, if_pos hrestart]
    · rw [if_neg hcall, if_neg hrestart] at h
      cases h

theorem pc_writeOperand (m : Machine) (o : Operand) (v : UInt8) :
    (m.writeOperand o v).regs.pc = m.regs.pc := by
  cases o with
  | reg r => cases r <;> rfl
  | atHl => rfl

theorem pc_setPair (r : Registers) (pair : Reg16) (w : UInt16) : (r.setPair pair w).pc = r.pc := by
  cases pair <;> rfl

theorem pc_movePointer (m : Machine) (p : Pointer) : (m.movePointer p).regs.pc = m.regs.pc := by
  cases p <;> rfl

theorem pc_exec (m : Machine) (i : Instr) (h : i.transfers = true → i.taken m.regs.flags = false) :
    (i.exec m).regs.pc = m.regs.pc := by
  cases i with
  | load target source => exact pc_writeOperand ..
  | loadImm target n => exact pc_writeOperand ..
  | inc target | dec target => exact pc_writeOperand ..
  | loadFrom p | storeTo p => exact pc_movePointer ..
  | loadPair pair nn | incPair pair | decPair pair | pop pair => exact pc_setPair ..
  | cb i =>
    cases i with
    | test bit target => rfl
    | _ => exact pc_writeOperand ..
  | jp | jpHl | jr | call | rst | ret | reti => cases h rfl
  | jpIf cc | jrIf cc | callIf cc | retIf cc =>
    have hcc : cc.holds m.regs.flags = false := h rfl
    rw [exec, hcc]
    rfl
  | _ => rfl

theorem exec_of_call {m : Machine} {i : Instr} {target : UInt16} (h : i.callTarget? = some target)
    (ht : i.taken m.regs.flags = true) : i.exec m = m.callWord target := by
  cases i with
  | callIf cc nn =>
    cases h
    exact if_pos ht
  | call | rst =>
    cases h
    rfl
  | _ => cases h

theorem regs_exec_of_return {m : Machine} {i : Instr} (h : i.isReturn = true)
    (ht : i.taken m.regs.flags = true) :
    (i.exec m).regs = { m.regs with pc := m.topWord, sp := m.regs.sp + 2 } := by
  cases i with
  | retIf cc =>
    rw [exec, if_pos (show cc.holds m.regs.flags = true from ht)]
    rfl
  | ret | reti => rfl
  | _ => cases h

theorem danger_of_call {i : Instr} {target : UInt16} (h : i.callTarget? = some target) :
    i.danger = .push := by
  cases i <;> first | rfl | cases h

theorem danger_of_return {i : Instr} (h : i.isReturn = true) : i.danger = .pop := by
  cases i <;> first | rfl | cases h

end Instr

namespace Cpu

variable {c : Cpu}

/-- The next step carries out a jump, call or return. -/
def Transfers (c : Cpu) : Prop :=
  let op := c.mem.read c.regs.pc
  c.step.isHalted = false ∧ op.toNat ∈ Opcode.transferring ∧ Opcode.taken c.regs.flags op = true

theorem taken_nextInstr (hle : c.regs.pc.toNat + c.nextInstr.length ≤ 0xFFFF) :
    c.nextInstr.taken c.regs.flags = Opcode.taken c.regs.flags (c.mem.read c.regs.pc) := by
  rw [nextInstr_eq hle, Instr.taken_decode]

/-- A step that does not halt the processor and is no transfer leads to the next instruction. -/
theorem pc_step (h : c.isHalted = false) (hs : c.step.isHalted = false) (ht : ¬c.Transfers) :
    c.step.regs.pc.toNat = c.regs.pc.toNat + Opcode.length (c.mem.read c.regs.pc) := by
  have hc := cause?_eq_none h hs
  have hle := le_of_no_cause hc
  have hnot : c.nextInstr.transfers = true → c.nextInstr.taken c.consumed.regs.flags = false := by
    intro htransfers
    show c.nextInstr.taken c.regs.flags = false
    rw [nextInstr_eq hle] at htransfers
    rw [taken_nextInstr hle]
    by_contra htaken
    exact ht ⟨hs, Instr.mem_of_transfers htransfers, by simpa using htaken⟩
  rw [step_of_no_cause h hc]
  show (c.nextInstr.exec c.consumed.toMachine).regs.pc.toNat = _
  rw [Instr.pc_exec _ _ hnot]
  show c.nextPc.toNat = _
  rw [toNat_nextPc, ← length_nextInstr, Nat.min_eq_left hle]

/-! ### Calls and returns -/

/-- A step that carries out a call. The address behind the call is on top of the stack. -/
theorem step_of_call {target : UInt16} (h : c.isHalted = false) (hs : c.step.isHalted = false)
    (hcall : c.nextInstr.callTarget? = some target)
    (htaken : c.nextInstr.taken c.regs.flags = true) :
    2 ≤ c.regs.sp.toNat ∧ c.step.regs.pc = target ∧ c.step.regs.sp = c.regs.sp - 2 ∧
      c.step.topWord = c.nextPc := by
  have hc := cause?_eq_none h hs
  have hle := le_of_no_cause hc
  have hstep : c.step.toMachine = c.consumed.toMachine.callWord target := by
    rw [step_of_no_cause h hc]
    exact Instr.exec_of_call hcall htaken
  refine ⟨?_, congrArg (·.regs.pc) hstep, congrArg (·.regs.sp) hstep, ?_⟩
  · rw [cause?_of_le hle, Instr.hazard, if_pos htaken, Instr.danger_of_call hcall] at hc
    by_contra hlt
    have hfull : c.consumed.regs.sp.toNat < 2 := Nat.not_le.mp hlt
    rw [Hazard.reason?, if_pos hfull] at hc
    cases hc
  · rw [hstep]
    exact Machine.topWord_pushWord c.consumed.toMachine c.nextPc

theorem step_of_return (h : c.isHalted = false) (hret : c.nextInstr.isReturn = true)
    (htaken : c.nextInstr.taken c.regs.flags = true) (hpc : c.regs.pc.toNat < 0xFFFF)
    (hsp : c.regs.sp.toNat < 0xFFFE) :
    c.step.isHalted = false ∧ c.step.regs.pc = c.topWord ∧ c.step.regs.sp = c.regs.sp + 2 := by
  have hlen : c.nextInstr.length = 1 := by
    generalize c.nextInstr = i at hret
    cases i <;> first | rfl | cases hret
  have hc : c.cause? = none := by
    rw [cause?_of_le (by omega), Instr.hazard, if_pos htaken, Instr.danger_of_return hret]
    exact if_neg (Nat.not_le.mpr hsp)
  have hregs : c.step.regs = { c.consumed.regs with pc := c.topWord, sp := c.regs.sp + 2 } := by
    rw [step_of_no_cause h hc]
    exact Instr.regs_exec_of_return hret htaken
  refine ⟨?_, congrArg (·.pc) hregs, congrArg (·.sp) hregs⟩
  rw [isHalted_step h, hc]
  rfl

/-- A call that is carried out leads to its target and leaves the address behind it on top of the
stack, two bytes below. Whatever happens then, as soon as the processor stands at a return that is
taken, with the stack pointer and the top word as the call left them, the next step leads behind the
call and restores the stack pointer that the call found. -/
theorem call_returns (c : Cpu) (target : UInt16) (h : c.isHalted = false)
    (hcall : Opcode.callTarget? (c.mem.read c.regs.pc) (c.mem.readWord (c.regs.pc + 1)) =
      some target)
    (htaken : Opcode.taken c.regs.flags (c.mem.read c.regs.pc) = true)
    (hs : c.step.isHalted = false) :
    let behind := c.regs.pc.toNat + Opcode.length (c.mem.read c.regs.pc)
    let sp := c.step.regs.sp
    c.step.regs.pc = target ∧ sp.toNat + 2 = c.regs.sp.toNat ∧
      (c.step.mem.readWord sp).toNat = behind ∧
      ∀ n, let c' := step^[n] c.step
        c'.isHalted = false → c'.regs.sp = sp → c'.mem.read sp = c.step.mem.read sp →
        c'.mem.read (sp + 1) = c.step.mem.read (sp + 1) → c'.regs.pc.toNat < 0xFFFF →
        (c'.mem.read c'.regs.pc).toNat ∈ Opcode.returns →
        Opcode.taken c'.regs.flags (c'.mem.read c'.regs.pc) = true →
        c'.step.isHalted = false ∧ c'.step.executed = c'.executed + 1 ∧
          c'.step.regs.pc.toNat = behind ∧ c'.step.regs.sp = c.regs.sp := by
  intro behind sp
  have hle := le_of_no_cause (cause?_eq_none h hs)
  have htarget : c.nextInstr.callTarget? = some target := by
    rw [nextInstr_eq hle]
    exact Instr.callTarget?_of_opcode _ hcall
  obtain ⟨hroom, hpc, hsp, htop⟩ := step_of_call h hs htarget (by rw [taken_nextInstr hle, htaken])
  have hbelow : sp.toNat + 2 = c.regs.sp.toNat := by
    show c.step.regs.sp.toNat + 2 = _
    rw [hsp, (toNat_below hroom).2]
    omega
  have hword : (c.step.mem.readWord sp).toNat = behind := by
    show c.step.topWord.toNat = _
    rw [htop, toNat_nextPc, Nat.min_eq_left hle, length_nextInstr]
  refine ⟨hpc, hbelow, hword, ?_⟩
  intro n c' hrun hsp' hlow hhigh hpc' hreturn htaken'
  have hlen := Opcode.length_of_mem_returns _ hreturn
  have hle' : c'.regs.pc.toNat + c'.nextInstr.length ≤ 0xFFFF := by
    rw [length_nextInstr, hlen]
    omega
  have hret : c'.nextInstr.isReturn = true := by
    rw [nextInstr_eq hle']
    exact Instr.isReturn_of_mem _ _ hreturn
  have hlow' : c'.regs.sp.toNat < 0xFFFE := by
    have := c.regs.sp.toNat_lt
    rw [hsp']
    omega
  have htop' : c'.topWord = c.step.mem.readWord sp := by
    unfold Machine.topWord Memory.readWord
    rw [hsp', hlow, hhigh]
  obtain ⟨hon, hback, hup⟩ := step_of_return hrun hret (by rw [taken_nextInstr hle', htaken'])
    hpc' hlow'
  refine ⟨hon, ?_, ?_, ?_⟩
  · rw [executed_step hrun, hon]
    rfl
  · rw [hback, htop', hword]
  · rw [hup, hsp']
    show c.step.regs.sp + 2 = _
    rw [hsp]
    exact UInt16.sub_add_cancel ..

/-- A call of code that uses the stack itself before it returns. -/
theorem call_returns_nested :
    let c : Cpu :=
      { started [0xCD, 0x04, 0x01, 0x76, 0xC5, 0xC1, 0xC9] with
        regs := { Registers.postBoot with sp := 0x0200 } }
    let c' := step^[2] c.step
    c.step.regs.pc = 0x0104 ∧ c'.regs.pc = 0x0106 ∧ c'.step.isHalted = false ∧
      c'.step.regs.pc.toNat = 0x0103 ∧ c'.step.regs.sp = 0x0200 := by
  intro c c'
  have hcall : Opcode.callTarget? (c.mem.read c.regs.pc) (c.mem.readWord (c.regs.pc + 1)) =
      some 0x0104 := by decide +kernel
  have htaken : Opcode.taken c.regs.flags (c.mem.read c.regs.pc) = true := by decide +kernel
  have hs : c.step.isHalted = false := by decide +kernel
  obtain ⟨hpc, -, -, hreturns⟩ := call_returns c 0x0104 rfl hcall htaken hs
  obtain ⟨hon, -, hback, hup⟩ := hreturns 2 (by decide +kernel) (by decide +kernel)
    (by decide +kernel) (by decide +kernel) (by decide +kernel) (by decide +kernel)
    (by decide +kernel)
  have hbehind : c.regs.pc.toNat + Opcode.length (c.mem.read c.regs.pc) = 0x0103 := by
    decide +kernel
  have hpc' : c'.regs.pc = 0x0106 := by decide +kernel
  refine ⟨hpc, hpc', hon, ?_, ?_⟩
  · rw [hback]
    exact hbehind
  · rw [hup]

end Cpu

end Lr35902
