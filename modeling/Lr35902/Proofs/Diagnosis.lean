import Lr35902.Proofs.Steps

/-!
# Halt records

A halt record is a diagnosis of the step that halted the processor. It names the instruction, where
the instruction lies and why it could not be completed, and it shows the registers that the step
left behind (`record_of_steps`), whatever the opcode register held before.
-/

namespace Lr35902

/-- A record that shows the given register file. -/
structure Snapshot.Shows (s : Snapshot) (r : Registers) : Prop where
  a : s.a = r.a
  bc : s.b = r.b ∧ s.c = r.c
  de : s.d = r.d ∧ s.e = r.e
  hl : s.h = r.h ∧ s.l = r.l
  sp : s.sp = r.sp
  pc : s.pc = r.pc
  f : s.f = r.flags.toByte
  flags : Flags.mk s.zero s.subtract s.halfCarry s.carry = r.flags

theorem Snapshot.shows_capture (r : Registers) (reason : Option HaltReason) (opcode : UInt8)
    (opcodeAddress : UInt16) (prefixed : Bool) (executed : Nat) :
    (capture r reason opcode opcodeAddress prefixed executed).Shows r where
  a := rfl
  bc := ⟨rfl, rfl⟩
  de := ⟨rfl, rfl⟩
  hl := ⟨rfl, rfl⟩
  sp := rfl
  pc := rfl
  f := rfl
  flags := rfl

/-- A record that is right about the step that led from one processor to another. -/
structure Snapshot.Diagnoses (s : Snapshot) (before after : Cpu) : Prop where
  address : s.opcodeAddress = before.regs.pc
  /-- The opcode is in memory at its address, also after the step. -/
  opcode : after.mem.read s.opcodeAddress = s.opcode
  notPrefixed : s.prefixed = false
  /-- The program counter stands behind the instruction, or at the end of memory. -/
  behind : s.pc.toNat = min (s.opcodeAddress.toNat + Opcode.length s.opcode) 0xFFFF
  shows : s.Shows after.regs

namespace Cpu

variable {c : Cpu}

/-- Why a step halts the processor, if it does, from the bytes at the program counter, the flags
and the stack pointer. -/
def diagnosis? (c : Cpu) : Option HaltReason :=
  let op := c.mem.read c.regs.pc
  let pc := c.regs.pc.toNat
  let target : Int := pc + 2 + Word.signed (c.mem.read (c.regs.pc + 1))
  if 0xFFFF < pc + Opcode.length op then some .pcOverflow
  else if Opcode.isUndefined op then some .unknownOpcode
  else if op = 0x76 then some .haltInstruction
  else if op = 0x10 then some .stopInstruction
  else if Opcode.taken c.regs.flags op then
    if op.toNat ∈ Opcode.relativeJumps then
      if target < 0 ∨ 0xFFFF < target then some .pcOverflow else none
    else if op.toNat ∈ Opcode.pushing then
      if c.regs.sp.toNat < 2 then some .stackOverflow else none
    else if op.toNat ∈ Opcode.popping then
      if 0xFFFE ≤ c.regs.sp.toNat then some .stackUnderflow else none
    else none
  else none

theorem diagnosis?_eq_cause? (c : Cpu) : c.diagnosis? = c.cause? := by
  unfold diagnosis?
  by_cases h : 0xFFFF < c.regs.pc.toNat + Opcode.length (c.mem.read c.regs.pc)
  · rw [if_pos h]
    unfold cause?
    rw [length_nextInstr, if_neg (Nat.not_le.mpr h)]
  · rw [if_neg h]
    exact (cause?_eq (Nat.not_lt.mp h)).symm

theorem record_of_step (h : c.isHalted = false) (hs : c.step.isHalted = true) :
    ∃ s, c.step.haltRecord? = some s ∧ s.reason = c.diagnosis? ∧ s.executed = c.executed ∧
      s.Diagnoses c c.step := by
  rw [isHalted_step h] at hs
  obtain ⟨reason, hc⟩ := Option.isSome_iff_exists.mp hs
  refine ⟨_, haltRecord?_step_of_cause h hc, ?_, rfl, ?_⟩
  · rw [diagnosis?_eq_cause?, hc]
    rfl
  · rw [step_eq_of_cause h hc]
    exact
      { address := rfl
        opcode := rfl
        notPrefixed := rfl
        behind := (toNat_nextPc c).trans (by rw [length_nextInstr]; rfl)
        shows := Snapshot.shows_capture .. }

/-- However many steps it took, the record of the halt is right about the step that halted the
processor, and counts the steps before that one. -/
theorem record_of_steps (c : Cpu) (n : Nat) (h : c.isHalted = false)
    (hn : (step^[n] c).isHalted = true) :
    ∃ k < n, ∃ s, (step^[k] c).isHalted = false ∧ (step^[k + 1] c).isHalted = true ∧
      (step^[n] c).haltRecord? = some s ∧ s.Diagnoses (step^[k] c) (step^[n] c) ∧
      s.reason = (step^[k] c).diagnosis? ∧ s.executed = c.executed + k := by
  obtain ⟨k, hk, hrun, hlast⟩ := exists_halting_step h hn
  have hs : (step^[k] c).step.isHalted = true := hlast ▸ hn
  obtain ⟨s, hrecord, hreason, hcount, hdiagnoses⟩ := record_of_step hrun hs
  refine ⟨k, hk, s, hrun, ?_, ?_, ?_, hreason, ?_⟩
  · rw [Function.iterate_succ_apply']
    exact hs
  · rw [hlast]
    exact hrecord
  · rw [hlast]
    exact hdiagnoses
  · rw [hcount, executed_iterate hrun]

/-- `HALT` behind an instruction of the second page, which leaves its mark in the opcode
register. -/
theorem record_of_steps_halt :
    let c := started [0xCB, 0x37, 0x76]
    c.isHalted = false ∧ (step^[4] c).isHalted = true ∧ (step^[1] c).prefixed = true ∧
      ∃ s, (step^[4] c).haltRecord? = some s ∧ s.prefixed = false ∧ s.opcodeAddress = 0x0102 ∧
        s.executed = 1 := by
  intro c
  have h : c.isHalted = false := rfl
  have hn : (step^[4] c).isHalted = true := by decide +kernel
  have hmark : (step^[1] c).prefixed = true := by decide +kernel
  obtain ⟨k, -, s, hrun, hhalt, hrecord, hdiagnoses, -, hcount⟩ := record_of_steps c 4 h hn
  -- The second step is the first after which the processor is halted.
  have hk : k = 1 := by
    have hbefore : (step^[1] c).isHalted = false := by decide +kernel
    have hafter : (step^[2] c).isHalted = true := by decide +kernel
    rcases Nat.lt_trichotomy k 1 with hlt | heq | hgt
    · have := running_of_le (m := k + 1) hbefore (by omega)
      rw [hhalt] at this
      cases this
    · exact heq
    · rw [iterate_eq_of_le hafter hgt, hafter] at hrun
      cases hrun
  subst hk
  have hpc : (step^[1] c).regs.pc = 0x0102 := by decide +kernel
  exact ⟨h, hn, hmark, s, hrecord, hdiagnoses.notPrefixed, hdiagnoses.address.trans hpc, hcount⟩

end Cpu

end Lr35902
