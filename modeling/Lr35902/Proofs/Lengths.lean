import Lr35902.Proofs.Assembly.Arithmetic
import Lr35902.Proofs.Control

/-!
# Lengths

The length that a listing gives for an instruction is the number of bytes that the processor
consumes before it does anything about it (`pc_step_by_length`). Whatever counts from behind the
instruction counts from there: the next instruction, the return address of a call, the target of a
relative jump and the address at which a halt leaves the program counter.
-/

namespace Lr35902

namespace Instr

theorem danger_of_mem_relativeJumps {op : UInt8} (n : UInt8) (nn : UInt16)
    (h : op.toNat ∈ Opcode.relativeJumps) : (decode op n nn).danger = .jump n := by
  have hop : (decode op 0 0).danger = .jump 0 := Opcode.forall_of_mem op h (by decide)
  rw [decode_eq_withOperands, danger_withOperands, hop]

theorem exec_of_relativeJump {m : Machine} {i : Instr} {offset : UInt8}
    (h : i.danger = .jump offset) (ht : i.taken m.regs.flags = true) :
    i.exec m = m.jump (Word.addOffset m.regs.pc offset) := by
  cases i with
  | jr => cases h; rfl
  | jrIf cc =>
    cases h
    exact if_pos ht
  | _ => cases h

end Instr

/-- Within reach, the target of a relative jump is the exact sum. -/
theorem Word.toNat_addOffset {w : UInt16} {b : UInt8} (h : ¬OutOfReach w b) :
    ((addOffset w b).toNat : Int) = w.toNat + signed b := by
  unfold OutOfReach at h
  rw [← Assembly.displaced_signed, Assembly.toNat_displaced, Int.emod_eq_of_lt (by omega)]
  omega

theorem Opcode.exists_callTarget {op : UInt8} (nn : UInt16) (h : op.toNat ∈ calls ++ restarts) :
    ∃ target, callTarget? op nn = some target := by
  unfold callTarget?
  by_cases hcall : op.toNat ∈ calls
  · exact ⟨nn, if_pos hcall⟩
  · have hrestart : op.toNat ∈ restarts := (List.mem_append.mp h).resolve_left hcall
    rw [if_neg hcall, if_pos hrestart]
    exact ⟨_, rfl⟩

namespace Cpu

variable {c : Cpu}

theorem length_disassemble (c : Cpu) :
    (c.mem.disassemble c.regs.pc.toNat).length = c.nextInstr.length :=
  (Instr.length_decode ..).symm

/-- A halt comes behind the instruction, or at the last address if there is none. -/
theorem pc_step_of_halts (h : c.isHalted = false) (hs : c.step.isHalted = true) :
    c.step.regs.pc = c.nextPc := by
  rw [isHalted_step h] at hs
  obtain ⟨reason, hc⟩ := Option.isSome_iff_exists.mp hs
  rw [step_eq_of_cause h hc]
  rfl

theorem toNat_nextPc_of_running (h : c.isHalted = false) (hs : c.step.isHalted = false) :
    c.nextPc.toNat = c.regs.pc.toNat + c.nextInstr.length := by
  rw [toNat_nextPc, Nat.min_eq_left (le_of_no_cause (cause?_eq_none h hs))]

theorem pc_step_of_not_taken (h : c.isHalted = false) (hs : c.step.isHalted = false)
    (hnot : (c.mem.read c.regs.pc).toNat ∉ Opcode.transferring ∨
      Opcode.taken c.regs.flags (c.mem.read c.regs.pc) = false) :
    c.step.regs.pc.toNat = c.nextPc.toNat := by
  have hstay : ¬c.Transfers := by
    rintro ⟨-, hmem, htaken⟩
    rcases hnot with hnot | hfalse
    · exact hnot hmem
    · exact Bool.false_ne_true (hfalse.symm.trans htaken)
  rw [pc_step h hs hstay, toNat_nextPc_of_running h hs, length_nextInstr]

theorem step_of_pushing_call (h : c.isHalted = false) (hs : c.step.isHalted = false)
    (hmem : (c.mem.read c.regs.pc).toNat ∈ Opcode.calls ++ Opcode.restarts)
    (htaken : Opcode.taken c.regs.flags (c.mem.read c.regs.pc) = true) :
    c.step.regs.sp.toNat + 2 = c.regs.sp.toNat ∧ c.step.topWord = c.nextPc := by
  have hle := le_of_no_cause (cause?_eq_none h hs)
  obtain ⟨target, htarget⟩ := Opcode.exists_callTarget (c.mem.readWord (c.regs.pc + 1)) hmem
  have hcall : c.nextInstr.callTarget? = some target := by
    rw [nextInstr_eq hle]
    exact Instr.callTarget?_of_opcode _ htarget
  obtain ⟨hroom, -, hsp, htop⟩ := step_of_call h hs hcall (by rw [taken_nextInstr hle, htaken])
  refine ⟨?_, htop⟩
  rw [hsp, (toNat_below hroom).2]
  omega

theorem pc_step_of_relativeJump (h : c.isHalted = false) (hs : c.step.isHalted = false)
    (hmem : (c.mem.read c.regs.pc).toNat ∈ Opcode.relativeJumps)
    (htaken : Opcode.taken c.regs.flags (c.mem.read c.regs.pc) = true) :
    (c.step.regs.pc.toNat : Int) =
      c.nextPc.toNat + Word.signed (c.mem.read (c.regs.pc + 1)) := by
  generalize hoffset : c.mem.read (c.regs.pc + 1) = offset
  have hc := cause?_eq_none h hs
  have hle := le_of_no_cause hc
  have hjump : c.nextInstr.danger = .jump offset := by
    rw [nextInstr_eq hle, hoffset]
    exact Instr.danger_of_mem_relativeJumps _ _ hmem
  have htaken' : c.nextInstr.taken c.regs.flags = true := by rw [taken_nextInstr hle, htaken]
  have hreach : ¬Word.OutOfReach c.nextPc offset := by
    intro hout
    rw [cause?_of_le hle, Instr.hazard, if_pos htaken', hjump] at hc
    cases (if_pos hout).symm.trans hc
  have hstep : c.step.toMachine = c.consumed.toMachine.jump (Word.addOffset c.nextPc offset) := by
    rw [step_of_no_cause h hc]
    exact Instr.exec_of_relativeJump hjump htaken'
  rw [hstep]
  exact Word.toNat_addOffset hreach

/-- What a step makes of the program counter, told by the length in the listing. What is not a
jump, call or return, or is not taken, leads behind the instruction. A call that is taken leaves the
address behind it on top of the stack. A relative jump that is taken adds its offset to that
address, without wrapping round. A step that halts the processor stops there too, but not past the
last address. -/
theorem pc_step_by_length (c : Cpu) (h : c.isHalted = false) :
    let op := c.mem.read c.regs.pc
    let line := c.mem.disassemble c.regs.pc.toNat
    let behind := c.regs.pc.toNat + line.length
    let taken := Opcode.taken c.regs.flags op
    let pc := c.step.regs.pc
    let sp := c.step.regs.sp
    (line.opcode = op ∧ line.length =
      if op.toNat ∈ Opcode.threeBytes then 3 else if op.toNat ∈ Opcode.twoBytes then 2 else 1) ∧
    (c.step.isHalted = false →
      (op.toNat ∉ Opcode.transferring ∨ taken = false → pc.toNat = behind) ∧
      (op.toNat ∈ Opcode.calls ++ Opcode.restarts → taken = true →
        sp.toNat + 2 = c.regs.sp.toNat ∧ (c.step.mem.readWord sp).toNat = behind) ∧
      (op.toNat ∈ Opcode.relativeJumps → taken = true →
        (pc.toNat : Int) = behind + Word.signed (c.mem.read (c.regs.pc + 1)))) ∧
    (c.step.isHalted = true → pc.toNat = min behind 0xFFFF) := by
  intro op line behind taken pc sp
  have hline : line.length = c.nextInstr.length := length_disassemble c
  have hlength : line.length = Opcode.length op := by rw [hline, length_nextInstr]
  refine ⟨⟨Memory.readOrZero_toNat .., hlength.trans (Opcode.length_eq op)⟩, ?_, ?_⟩
  · intro hs
    have hbehind : c.nextPc.toNat = behind := by rw [toNat_nextPc_of_running h hs, ← hline]
    rw [← hbehind]
    refine ⟨pc_step_of_not_taken h hs, ?_, pc_step_of_relativeJump h hs⟩
    intro hmem ht
    obtain ⟨hsp, htop⟩ := step_of_pushing_call h hs hmem ht
    exact ⟨hsp, congrArg UInt16.toNat htop⟩
  · intro hs
    show c.step.regs.pc.toNat = _
    rw [pc_step_of_halts h hs, toNat_nextPc, ← hline]

/-- A jump back to itself, and a restart. -/
theorem pc_step_by_length_backward :
    let jump := started [0x18, 0xFE]
    let restart : Cpu := { started [0xEF] with regs := { Registers.postBoot with sp := 0x0200 } }
    (jump.step.regs.pc.toNat : Int) = 0x0100 ∧
      (restart.step.mem.readWord restart.step.regs.sp).toNat = 0x0101 := by
  intro jump restart
  obtain ⟨-, hjump, -⟩ := pc_step_by_length jump rfl
  obtain ⟨-, hrestart, -⟩ := pc_step_by_length restart rfl
  obtain ⟨-, -, htarget⟩ := hjump (by decide +kernel)
  obtain ⟨-, hreturn, -⟩ := hrestart (by decide +kernel)
  constructor
  · rw [htarget (by decide +kernel) (by decide +kernel)]
    decide +kernel
  · rw [(hreturn (by decide +kernel) (by decide +kernel)).2]
    decide +kernel

end Cpu

end Lr35902
