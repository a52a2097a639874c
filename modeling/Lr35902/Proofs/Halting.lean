import Lr35902.Proofs.Cycle

/-!
# Halting

When a step halts the processor, and what it leaves behind then. The conditions are those on the
opcode, the flags, the stack pointer and the target of a relative jump (`cause?_eq`); running out of
memory comes before all of them. A step that halts the processor has no effect on the machine but
for the program counter.
-/

namespace Lr35902

namespace Opcode

/-- An opcode without a meaning has no other hazard and no condition. -/
theorem not_mem_of_isUndefined (op : UInt8) (h : isUndefined op = true) :
    op ≠ 0x76 ∧ op ≠ 0x10 ∧ op.toNat ∉ relativeJumps ∧ op.toNat ∉ pushing ∧ op.toNat ∉ popping ∧
      op.toNat ∉ conditional :=
  forall_of_mem op (List.contains_iff_mem.mp h) (by decide)

theorem not_mem_of_halting (op : UInt8) (h : op = 0x76 ∨ op = 0x10) :
    op.toNat ∉ relativeJumps ∧ op.toNat ∉ pushing ∧ op.toNat ∉ popping := by
  rcases h with rfl | rfl <;> decide

theorem length_of_mem_relativeJumps (op : UInt8) (h : op.toNat ∈ relativeJumps) : length op = 2 :=
  forall_of_mem op h (by decide)

theorem not_mem_of_mem_relativeJumps (op : UInt8) (h : op.toNat ∈ relativeJumps) :
    op.toNat ∉ pushing ∧ op.toNat ∉ popping :=
  forall_of_mem op h (by decide)

theorem not_mem_of_mem_pushing (op : UInt8) (h : op.toNat ∈ pushing) : op.toNat ∉ popping :=
  forall_of_mem op h (by decide)

end Opcode

namespace Cpu

variable {c : Cpu}

theorem status_step_of_no_cause (h : c.isHalted = false) (hc : c.cause? = none) :
    c.step.status = c.status := by
  rw [step_of_no_cause h hc]
  exact status_latched c

theorem haltRecord?_step_of_cause {reason : HaltReason} (h : c.isHalted = false)
    (hc : c.cause? = some reason) :
    c.step.haltRecord? = some (c.consumed.capture (some reason)) := by
  rw [step_of_cause h hc, halt_of_running (c := c.consumed) h]
  rfl

theorem isHalted_step (h : c.isHalted = false) : c.step.isHalted = c.cause?.isSome := by
  cases hc : c.cause? with
  | none =>
    unfold isHalted haltRecord?
    rw [status_step_of_no_cause h hc]
    exact h
  | some reason =>
    unfold isHalted
    rw [haltRecord?_step_of_cause h hc]
    rfl

theorem cause?_eq_none (h : c.isHalted = false) (hs : c.step.isHalted = false) :
    c.cause? = none := by
  rw [isHalted_step h] at hs
  simpa using hs

theorem reason?_step (h : c.isHalted = false) : c.step.reason? = c.cause? := by
  unfold reason?
  cases hc : c.cause? with
  | none =>
    have hs : c.step.isHalted = false := by rw [isHalted_step h, hc]; rfl
    unfold isHalted at hs
    rw [Option.isSome_eq_false_iff, Option.isNone_iff_eq_none] at hs
    rw [hs]
    rfl
  | some reason =>
    rw [haltRecord?_step_of_cause h hc]
    rfl

theorem executed_step_of_no_cause (h : c.isHalted = false) (hc : c.cause? = none) :
    c.step.executed = c.executed + 1 := by
  rw [step_of_no_cause h hc]

theorem nextInstr_eq (h : c.regs.pc.toNat + c.nextInstr.length ≤ 0xFFFF) :
    c.nextInstr = .decode (c.mem.read c.regs.pc) (c.mem.read (c.regs.pc + 1))
      (c.mem.readWord (c.regs.pc + 1)) :=
  (Memory.decode_eq_instrAt (by rw [← length_nextInstr]; omega)).symm

theorem cause?_of_le (h : c.regs.pc.toNat + c.nextInstr.length ≤ 0xFFFF) :
    c.cause? = (c.nextInstr.hazard c.regs.flags).reason? c.consumed.regs := by
  unfold cause?
  rw [if_pos h, Instr.reason?_verdict]
  rfl

/-- The offset of a relative jump counts from behind it. -/
theorem outOfReach_iff {offset : UInt8} (hle : c.regs.pc.toNat + c.nextInstr.length ≤ 0xFFFF)
    (h : c.nextInstr.length = 2) :
    Word.OutOfReach c.consumed.regs.pc offset ↔
      (c.regs.pc.toNat : Int) + 2 + Word.signed offset < 0 ∨
        0xFFFF < (c.regs.pc.toNat : Int) + 2 + Word.signed offset := by
  have hpc : c.consumed.regs.pc.toNat = c.regs.pc.toNat + 2 := by
    show c.nextPc.toNat = _
    rw [toNat_nextPc]
    omega
  unfold Word.OutOfReach
  rw [hpc]
  omega

theorem cause?_eq (h : c.regs.pc.toNat + Opcode.length (c.mem.read c.regs.pc) ≤ 0xFFFF) :
    let op := c.mem.read c.regs.pc
    let target : Int := c.regs.pc.toNat + 2 + Word.signed (c.mem.read (c.regs.pc + 1))
    c.cause? =
      if Opcode.isUndefined op then some .unknownOpcode
      else if op = 0x76 then some .haltInstruction
      else if op = 0x10 then some .stopInstruction
      else if Opcode.taken c.regs.flags op then
        if op.toNat ∈ Opcode.relativeJumps then
          if target < 0 ∨ 0xFFFF < target then some .pcOverflow else none
        else if op.toNat ∈ Opcode.pushing then
          if c.regs.sp.toNat < 2 then some .stackOverflow else none
        else if op.toNat ∈ Opcode.popping then
          if 0xFFFE ≤ c.regs.sp.toNat then some .stackUnderflow else none
        else none
      else none := by
  intro op target
  have hle : c.regs.pc.toNat + c.nextInstr.length ≤ 0xFFFF := by
    rw [length_nextInstr]
    exact h
  rw [cause?_of_le hle, nextInstr_eq hle, Instr.hazard_decode, Instr.danger_decode]
  by_cases hu : Opcode.isUndefined op = true
  · have ht : Opcode.taken c.regs.flags op = true :=
      if_neg (Opcode.not_mem_of_isUndefined op hu).2.2.2.2.2
    rw [if_pos ht, if_pos hu, if_pos hu]
    rfl
  rw [if_neg hu, if_neg hu]
  by_cases hh : op = 0x76
  · have ht : Opcode.taken c.regs.flags op = true := by rw [hh]; rfl
    rw [if_pos ht, if_pos hh, if_pos hh]
    rfl
  rw [if_neg hh, if_neg hh]
  by_cases hs : op = 0x10
  · have ht : Opcode.taken c.regs.flags op = true := by rw [hs]; rfl
    rw [if_pos ht, if_pos hs, if_pos hs]
    rfl
  rw [if_neg hs, if_neg hs]
  by_cases ht : Opcode.taken c.regs.flags op = true
  · rw [if_pos ht, if_pos ht]
    split
    · rename_i hj
      have hlen : c.nextInstr.length = 2 := by
        rw [length_nextInstr]
        exact Opcode.length_of_mem_relativeJumps op hj
      show (if Word.OutOfReach c.consumed.regs.pc _ then _ else _) = _
      simp only [outOfReach_iff hle hlen]
      rfl
    · split
      · rfl
      · split <;> rfl
  · rw [if_neg ht, if_neg ht]
    rfl

def facing (op : UInt8) : Cpu := { fresh with mem := Memory.blank.write 0x0100 op }

theorem read_facing (op : UInt8) : (facing op).mem.read (facing op).regs.pc = op :=
  Memory.read_write_self _ _ _

/-- When a step halts the processor and why. -/
theorem step_halts_iff (c : Cpu) (h : c.isHalted = false) :
    let op := c.mem.read c.regs.pc
    let pc := c.regs.pc.toNat
    let sp := c.regs.sp.toNat
    let target : Int := pc + 2 + Word.signed (c.mem.read (c.regs.pc + 1))
    let reason := c.step.reason?
    (0xFFFF < pc + Opcode.length op → reason = some .pcOverflow) ∧
    (pc + Opcode.length op ≤ 0xFFFF →
      (reason = some .unknownOpcode ↔ Opcode.isUndefined op = true) ∧
      (reason = some .haltInstruction ↔ op = 0x76) ∧
      (reason = some .stopInstruction ↔ op = 0x10) ∧
      (reason = some .pcOverflow ↔ op.toNat ∈ Opcode.relativeJumps ∧
        Opcode.taken c.regs.flags op = true ∧ (target < 0 ∨ 0xFFFF < target)) ∧
      (reason = some .stackOverflow ↔ op.toNat ∈ Opcode.pushing ∧
        Opcode.taken c.regs.flags op = true ∧ sp < 2) ∧
      (reason = some .stackUnderflow ↔ op.toNat ∈ Opcode.popping ∧
        Opcode.taken c.regs.flags op = true ∧ 0xFFFE ≤ sp)) ∧
    (c.step.isHalted = true ↔ reason ≠ none) ∧
    (c.step.isHalted = false → c.step.executed = c.executed + 1) := by
  intro op pc sp target reason
  have hreason : reason = c.cause? := reason?_step h
  refine ⟨?_, ?_, ?_, ?_⟩
  · intro hgt
    rw [hreason]
    unfold cause?
    rw [length_nextInstr]
    exact if_neg (Nat.not_le.mpr hgt)
  · intro hle
    have hu := Opcode.not_mem_of_isUndefined op
    have hh := Opcode.not_mem_of_halting op
    have hj := Opcode.not_mem_of_mem_relativeJumps op
    have hp := Opcode.not_mem_of_mem_pushing op
    rw [hreason, cause?_eq hle]
    -- The classes of opcodes are disjoint, so each reason is left with one branch of `cause?_eq`.
    grind
  · rw [isHalted_step h, hreason, Option.isSome_iff_ne_none]
  · intro hs
    rw [isHalted_step h] at hs
    exact executed_step_of_no_cause h (by simpa using hs)

/-- A pop from the empty stack. -/
theorem step_halts_pop :
    (facing 0xC1).isHalted = false ∧ (facing 0xC1).step.reason? = some .stackUnderflow := by
  have h : (facing 0xC1).isHalted = false := rfl
  have hiff := step_halts_iff (facing 0xC1) h
  simp only [read_facing] at hiff
  obtain ⟨-, hinside, -⟩ := hiff
  obtain ⟨-, -, -, -, -, hunder⟩ := hinside (by decide)
  exact ⟨h, hunder.mpr ⟨by decide, rfl, by decide⟩⟩

/-- A step that halts the processor has no other effect than to move the program counter. -/
theorem machine_step_of_halts (h : c.isHalted = false) (hs : c.step.isHalted = true) :
    c.step.regs = { c.regs with pc := c.step.regs.pc } ∧ c.step.mem = c.mem ∧
      c.step.ime = c.ime ∧ c.step.executed = c.executed := by
  rw [isHalted_step h] at hs
  obtain ⟨reason, hc⟩ := Option.isSome_iff_exists.mp hs
  rw [step_of_cause h hc, halt_of_running (c := c.consumed) h]
  exact ⟨rfl, rfl, rfl, rfl⟩

/-- A processor that faces the given opcode at an address. -/
def facingAt (op : UInt8) (pc sp : UInt16) : Cpu :=
  { ofMemory (Memory.blank.write pc op) with
    regs := { Registers.postBoot with pc := pc, sp := sp } }

theorem read_facingAt (op : UInt8) (pc sp : UInt16) :
    (facingAt op pc sp).mem.read (facingAt op pc sp).regs.pc = op :=
  Memory.read_write_self _ _ _

/-- `CALL` with room for one byte of the return address; `LD (nn),SP` without the second byte of
the address; and `RETI` with nowhere to return to. -/
theorem machine_step_of_halts_midway :
    let call := facingAt 0xCD 0x0100 1
    let cut := facingAt 0x08 0xFFFD 0xFFFE
    let reti := facingAt 0xD9 0x0100 0xFFFE
    (call.step.reason? = some .stackOverflow ∧ call.step.mem = call.mem ∧ call.step.regs.sp = 1) ∧
    (cut.step.reason? = some .pcOverflow ∧ cut.step.mem = cut.mem) ∧
    (reti.step.reason? = some .stackUnderflow ∧ reti.step.ime = false ∧
      reti.step.regs.sp = 0xFFFE) := by
  intro call cut reti
  have hcall : call.cause? = some .stackOverflow := by
    rw [cause?_eq (by rw [read_facingAt]; decide)]
    simp only [call, read_facingAt]
    rfl
  have hcut : cut.cause? = some .pcOverflow := by
    unfold cause?
    rw [length_nextInstr, read_facingAt]
    rfl
  have hreti : reti.cause? = some .stackUnderflow := by
    rw [cause?_eq (by rw [read_facingAt]; decide)]
    simp only [reti, read_facingAt]
    rfl
  have halts {c : Cpu} {reason : HaltReason} (h : c.isHalted = false)
      (hc : c.cause? = some reason) : c.step.isHalted = true := by
    rw [isHalted_step h, hc]
    rfl
  obtain ⟨hregs, hmem, -⟩ := machine_step_of_halts (c := call) rfl (halts rfl hcall)
  obtain ⟨-, hmem', -⟩ := machine_step_of_halts (c := cut) rfl (halts rfl hcut)
  obtain ⟨hregs'', -, hime, -⟩ := machine_step_of_halts (c := reti) rfl (halts rfl hreti)
  refine ⟨⟨(reason?_step rfl).trans hcall, hmem, ?_⟩, ⟨(reason?_step rfl).trans hcut, hmem'⟩,
    (reason?_step rfl).trans hreti, hime, ?_⟩
  · rw [hregs]
    rfl
  · rw [hregs'']
    rfl

end Cpu

end Lr35902
