import Lr35902.Proofs.Assembly.Arithmetic
import Lr35902.Proofs.Assembly.Reading
import Lr35902.Proofs.Halting

/-!
# Mnemonic and effect agree

Executing an instruction does what its mnemonic says (`Instr.exec_eq_effect`). So does a step of the
processor, which fetches the instruction that the disassembler shows at the program counter.
-/

namespace Lr35902

open Assembly

/-! ### Operands -/

theorem get_place (m : Machine) (o : Operand) : o.place.get m = m.readOperand o := by
  cases o <;> rfl

theorem put_place (m : Machine) (o : Operand) (v : UInt8) :
    o.place.put m v = m.writeOperand o v := by
  cases o <;> rfl

theorem get_pointer (m : Machine) (p : Pointer) : p.place.get m = m.mem.read (m.address p) := by
  cases p <;> rfl

theorem put_pointer (m : Machine) (p : Pointer) (v : UInt8) :
    p.place.put m v = m.store (m.address p) v := by
  cases p <;> rfl

theorem stride_place (o : Operand) : o.place.stride = 0 := by
  cases o <;> rfl

theorem Registers.setHl_hl (r : Registers) : r.setHl r.hl = r := by
  unfold setHl hl
  rw [Word.high_ofBytes, Word.low_ofBytes]

theorem paired_hl_self (m : Machine) : paired m .hl (displaced m.regs.hl 0) = m := by
  unfold paired
  rw [displaced_zero]
  show { m with regs := m.regs.setHl m.regs.hl } = m
  rw [Registers.setHl_hl]

theorem paired_stride (m : Machine) (p : Pointer) :
    paired m .hl (displaced m.regs.hl p.place.stride) = m.movePointer p := by
  cases p with
  | bc | de => exact paired_hl_self m
  | hlUp =>
    show paired m .hl (displaced m.regs.hl 1) = _
    rw [displaced_one]
    rfl
  | hlDown =>
    show paired m .hl (displaced m.regs.hl (-1)) = _
    rw [displaced_neg_one]
    rfl

/-- `HL` moves after a load as it does after an access through the pointer of that stride. -/
theorem effect_ld_pointer (m : Machine) (target : Place) (source : Source) (p : Pointer)
    (h : target.stride + source.stride = p.place.stride) :
    (Statement.ld target source).effect m = (target.put m (source.get m)).movePointer p := by
  show paired _ .hl (displaced _ (target.stride + source.stride)) = _
  rw [h]
  exact paired_stride _ p

theorem effect_ld (m : Machine) (target : Place) (source : Source) (ht : target.stride = 0)
    (hs : source.stride = 0) :
    (Statement.ld target source).effect m = target.put m (source.get m) :=
  effect_ld_pointer m target source .bc (by rw [ht, hs]; rfl)

theorem popped_eq (m : Machine) : popped m = (m.topWord, m.dropWord) :=
  Prod.ext (m.mem.readWord_eq m.regs.sp).symm rfl

/-! ### Instructions -/

theorem CbInstr.exec_eq_effect (m : Machine) (i : CbInstr) :
    i.exec m = i.bitOp.effect m i.target.place := by
  cases i with
  | shift op target =>
    show _ = target.place.put (flagged m (shiftBits _ _ op).2) (shiftBits _ _ op).1
    rw [get_place, shiftBits_eq, put_place]
    rfl
  | test bit target =>
    show _ = flagged m
      { m.regs.flags with
        zero := !Byte.bit (target.place.get m) bit
        subtract := false
        halfCarry := true }
    rw [get_place, ← masked_eq_zero]
    rfl
  | reset bit target =>
    show _ = target.place.put m (Byte.withBit (target.place.get m) bit false)
    rw [get_place, put_place, withBit_false]
    rfl
  | set bit target =>
    show _ = target.place.put m (Byte.withBit (target.place.get m) bit true)
    rw [get_place, put_place, withBit_true]
    rfl

/-- Executing an instruction does what its mnemonic says. -/
theorem Instr.exec_eq_effect (m : Machine) (i : Instr) : i.exec m = i.statement.effect m := by
  cases i with
  | load target source =>
    rw [statement, effect_ld m _ (.place _) (stride_place target) (stride_place source), put_place]
    show m.writeOperand target (m.readOperand source) = m.writeOperand target (source.place.get m)
    rw [get_place]
  | loadImm target n =>
    rw [statement, effect_ld m _ _ (stride_place target) rfl, put_place]
    rfl
  | loadFrom p =>
    rw [statement, effect_ld_pointer m _ _ p (Int.zero_add _)]
    show _ = (Place.put m (p.place.get m) (.reg .a)).movePointer p
    rw [get_pointer]
    rfl
  | storeTo p =>
    rw [statement, effect_ld_pointer m _ _ p (Int.add_zero _)]
    show _ = (p.place.put m m.regs.a).movePointer p
    rw [put_pointer]
    rfl
  | loadAt | storeAt | loadHigh | storeHigh | loadHighC | storeHighC =>
    exact Eq.symm (effect_ld m _ _ rfl rfl)
  | loadHlSp offset =>
    show _ = paired (flagged m (offsetSum _ _).2) .hl (offsetSum _ _).1
    rw [offsetSum_eq]
    rfl
  | addSp offset =>
    show _ = paired (flagged m (offsetSum _ _).2) .sp (offsetSum _ _).1
    rw [offsetSum_eq]
    rfl
  | alu op source =>
    show _ = accumulated m (arithmetic _ _ (source.place.get m) op)
    rw [get_place, arithmetic_eq]
    rfl
  | aluImm op n =>
    show _ = accumulated m (arithmetic _ _ n op)
    rw [arithmetic_eq]
    rfl
  | inc target =>
    show _ = target.place.put (flagged m (increment _ _).2) (increment _ _).1
    rw [get_place, increment_eq, put_place]
    rfl
  | dec target =>
    show _ = target.place.put (flagged m (decrement _ _).2) (decrement _ _).1
    rw [get_place, decrement_eq, put_place]
    rfl
  | incPair pair =>
    show _ = paired m pair (displaced _ 1)
    rw [displaced_one]
    rfl
  | decPair pair =>
    show _ = paired m pair (displaced _ (-1))
    rw [displaced_neg_one]
    rfl
  | addHl pair =>
    show _ = paired (flagged m (wordSum _ _ _).2) .hl (wordSum _ _ _).1
    rw [wordSum_eq]
    rfl
  | rlca | rrca | rla | rra =>
    show _ = accumulated m ((shiftBits _ _ _).1, { (shiftBits _ _ _).2 with zero := false })
    rw [shiftBits_eq]
    rfl
  | daa =>
    show _ = accumulated m (decimalAdjust _ _)
    rw [decimalAdjust_eq]
    rfl
  | cpl => exact congrArg (accumulated m) (complement_eq _ _).symm
  | jr offset =>
    show _ = jumped m (displaced _ _)
    rw [displaced_signed]
    rfl
  | jrIf cc offset =>
    show _ = if met _ (some cc) then jumped m (displaced _ _) else m
    rw [displaced_signed]
    cases cc <;> rfl
  | jpIf cc nn => cases cc <;> rfl
  | callIf cc nn => cases cc <;> rfl
  | pop pair =>
    show _ = paired (popped m).2 pair (popped m).1
    rw [popped_eq]
    rfl
  | ret =>
    show _ = jumped (popped m).2 (popped m).1
    rw [popped_eq]
    rfl
  | retIf cc =>
    show _ = if met _ (some cc) then jumped (popped m).2 (popped m).1 else m
    rw [popped_eq]
    cases cc <;> rfl
  | reti =>
    show _ = { jumped (popped m).2 (popped m).1 with ime := true }
    rw [popped_eq]
    rfl
  | rst slot =>
    have htarget : ∀ slot : Fin 8,
        8 * UInt16.ofNat slot = (UInt8.ofNat (8 * slot)).toUInt16 := by decide
    exact congrArg m.callWord (htarget slot)
  | cb i => exact i.exec_eq_effect m
  | _ => rfl

/-- Two machines that differ at most in an operand and in the flags. -/
structure Machine.Confined (o : Operand) (m m' : Machine) : Prop where
  registers : ∀ r, o ≠ .reg r → m'.regs.get r = m.regs.get r
  cells : ∀ a, (o = .atHl → a ≠ m.regs.hl) → m'.mem.read a = m.mem.read a
  sp : m'.regs.sp = m.regs.sp
  pc : m'.regs.pc = m.regs.pc
  ime : m'.ime = m.ime

namespace Machine

variable (m : Machine) (o : Operand)

theorem confined_setFlags (f : Flags) : Confined o m (m.setFlags f) where
  registers r _ := by cases r <;> rfl
  cells _ _ := rfl
  sp := rfl
  pc := rfl
  ime := rfl

theorem confined_writeOperand (v : UInt8) : Confined o m (m.writeOperand o v) where
  registers r hr := by
    cases o with
    | reg r' => exact Registers.get_set_of_ne _ _ fun h => hr (congrArg Operand.reg h.symm)
    | atHl => rfl
  cells a ha := by
    cases o with
    | reg r => rfl
    | atHl => exact Memory.read_write_of_ne _ _ (ha rfl).symm
  sp := by
    cases o with
    | reg r => cases r <;> rfl
    | atHl => rfl
  pc := by
    cases o with
    | reg r => cases r <;> rfl
    | atHl => rfl
  ime := by cases o <;> rfl

theorem confined_setOperand (r : UInt8 × Flags) : Confined o m (m.setOperand o r) := by
  have h₁ := confined_setFlags m o r.2
  have h₂ := confined_writeOperand (m.setFlags r.2) o r.1
  exact
    { registers := fun r' hr => (h₂.registers r' hr).trans (h₁.registers r' hr)
      cells := h₂.cells
      sp := h₂.sp
      pc := h₂.pc
      ime := h₂.ime }

end Machine

theorem CbInstr.confined_exec (m : Machine) (i : CbInstr) :
    m.Confined i.target (i.exec m) := by
  cases i with
  | shift op target => exact m.confined_setOperand target _
  | test bit target => exact m.confined_setFlags target _
  | reset bit target => exact m.confined_writeOperand target _
  | set bit target => exact m.confined_writeOperand target _

/-! ### Steps -/

namespace Cpu

variable {c : Cpu}

theorem nextPc_eq_displaced (h : c.regs.pc.toNat + c.nextInstr.length ≤ 0xFFFF) :
    c.nextPc = displaced c.regs.pc c.nextInstr.statement.size := by
  symm
  apply displaced_eq
  rw [toNat_nextPc, Instr.size_statement]
  omega

theorem step_eq_meaning (h : c.isHalted = false) (hc : c.cause? = none) :
    c.step =
      { c.latched with
        toMachine := c.nextInstr.statement.meaning c.toMachine
        executed := c.executed + 1 } := by
  have hm : c.nextInstr.exec c.consumed.toMachine =
      c.nextInstr.statement.meaning c.toMachine := by
    rw [Instr.exec_eq_effect]
    unfold Statement.meaning
    rw [← nextPc_eq_displaced (le_of_no_cause hc)]
    rfl
  rw [step_of_no_cause h hc, hm]

/-- What the disassembler shows at the program counter is what a step does that does not halt the
processor, unless it is an instruction of the second page. -/
theorem step_of_disassembly (c : Cpu) (h : c.isHalted = false)
    (hop : c.mem.read c.regs.pc ≠ 0xCB) (hs : c.step.isHalted = false) :
    ∃ s, read (c.mem.disassemble c.regs.pc.toNat).mnemonic = some s ∧
      c.step =
        { c with
          toMachine := s.meaning c.toMachine
          opcode := c.mem.read c.regs.pc
          opcodeAddress := c.regs.pc
          prefixed := false
          executed := c.executed + 1 } := by
  have hc := cause?_eq_none h hs
  refine ⟨c.nextInstr.statement, Instr.read_mnemonic c.nextInstr, ?_⟩
  have hl : c.latched = c.consumed := by
    have hp : c.nextInstr.isPrefixed = false := by
      rw [isPrefixed_nextInstr]
      exact beq_false_of_ne hop
    exact if_neg (by rw [hp]; exact Bool.false_ne_true)
  rw [step_eq_meaning h hc, hl]
  rfl

/-- `INC A` is read as such and carried out. -/
theorem step_of_disassembly_inc :
    (facing 0x3C).isHalted = false ∧ (facing 0x3C).mem.read (facing 0x3C).regs.pc ≠ 0xCB ∧
      (facing 0x3C).step.isHalted = false ∧
      ∃ s, read ((facing 0x3C).mem.disassemble (facing 0x3C).regs.pc.toNat).mnemonic = some s ∧
        (facing 0x3C).step.toMachine = s.meaning (facing 0x3C).toMachine := by
  have h : (facing 0x3C).isHalted = false := rfl
  have hop : (facing 0x3C).mem.read (facing 0x3C).regs.pc ≠ 0xCB := by
    rw [read_facing]
    decide
  have hs : (facing 0x3C).step.isHalted = false := by
    rw [isHalted_step h, cause?_eq (by rw [read_facing]; decide)]
    simp only [read_facing]
    decide
  obtain ⟨s, hread, hstep⟩ := step_of_disassembly (facing 0x3C) h hop hs
  exact ⟨h, hop, hs, s, hread, by rw [hstep]⟩

theorem nextInstr_of_prefixed (hop : c.mem.read c.regs.pc = 0xCB) :
    c.nextInstr = .cb (.decode (c.mem.readOrZero (c.regs.pc.toNat + 1))) := by
  unfold nextInstr Memory.instrAt
  rw [Memory.readOrZero_toNat, hop]
  exact Instr.decode_prefixed _ _

theorem cause?_of_prefixed (hop : c.mem.read c.regs.pc = 0xCB)
    (hpc : c.regs.pc.toNat + 2 ≤ 0xFFFF) : c.cause? = none := by
  unfold cause?
  rw [nextInstr_of_prefixed hop]
  exact if_pos hpc

/-- An instruction of the second page does what the disassembler shows to one register or to the
byte that `HL` points to, and nothing else but for the flags. -/
theorem step_of_prefixed (c : Cpu) (h : c.isHalted = false) (hop : c.mem.read c.regs.pc = 0xCB)
    (hpc : c.regs.pc.toNat + 2 ≤ 0xFFFF) :
    let behind := { c.toMachine with regs := { c.regs with pc := c.regs.pc + 2 } }
    c.step.isHalted = false ∧
      ∃ (op : BitOp) (target : Operand),
        read (c.mem.disassemble c.regs.pc.toNat).mnemonic = some (.bits op target.place) ∧
        c.step =
          { c with
            toMachine := op.effect behind target.place
            opcode := c.mem.read (c.regs.pc + 1)
            opcodeAddress := c.regs.pc + 1
            prefixed := true
            executed := c.executed + 1 } ∧
        behind.Confined target c.step.toMachine := by
  intro behind
  have hc := cause?_of_prefixed hop hpc
  have hi := nextInstr_of_prefixed hop
  generalize CbInstr.decode (c.mem.readOrZero (c.regs.pc.toNat + 1)) = i at hi
  have hbehind : c.consumed.toMachine = behind := by
    have hnext : c.nextPc = c.regs.pc + 2 := by
      apply UInt16.toNat_inj.mp
      rw [toNat_nextPc, hi, UInt16.toNat_add]
      show min (c.regs.pc.toNat + 2) 0xFFFF = (c.regs.pc.toNat + 2) % 65536
      omega
    show { c.toMachine with regs := { c.regs with pc := c.nextPc } } = behind
    rw [hnext]
  have hl : c.latched =
      { c.consumed with
        opcode := c.mem.read (c.regs.pc + 1)
        opcodeAddress := c.regs.pc + 1
        prefixed := true } := if_pos (by rw [hi]; rfl)
  have hstep := step_of_no_cause h hc
  rw [hi, hl, hbehind] at hstep
  refine ⟨?_, i.bitOp, i.target, ?_, ?_, ?_⟩
  · rw [isHalted_step h, hc]
    rfl
  · show read c.nextInstr.mnemonic = _
    rw [hi]
    exact Instr.read_mnemonic (.cb i)
  · rw [← CbInstr.exec_eq_effect]
    exact hstep
  · rw [hstep]
    exact i.confined_exec behind

/-- A rotation through the carry, which is set, of the byte that `HL` points to. -/
theorem step_of_prefixed_rl :
    let c := { fresh with
      mem := Memory.blank.loadAt 0x0100 [0xCB, 0x16, 0x81]
      regs := { fresh.regs with h := 0x01, l := 0x02 } }
    c.isHalted = false ∧ c.mem.read c.regs.pc = 0xCB ∧ c.regs.pc.toNat + 2 ≤ 0xFFFF ∧
      c.regs.hl = 0x0102 ∧ c.mem.read 0x0102 = 0x81 ∧ c.regs.flags.carry = true ∧
      read (c.mem.disassemble c.regs.pc.toNat).mnemonic = some (.bits (.shift .rl) (.mem .hl)) ∧
      c.step.mem = c.mem.write 0x0102 0x03 ∧
      c.step.regs =
        { c.regs with flags := ⟨false, false, false, true⟩, pc := c.regs.pc + 2 } := by
  intro c
  have h : c.isHalted = false := rfl
  have hop : c.mem.read c.regs.pc = 0xCB := by decide
  have hpc : c.regs.pc.toNat + 2 ≤ 0xFFFF := by decide
  have hhl : c.regs.hl = 0x0102 := by decide
  have hbyte : c.mem.read 0x0102 = 0x81 := by decide
  have hshown : read (c.mem.disassemble c.regs.pc.toNat).mnemonic =
      some (.bits (.shift .rl) (.mem .hl)) := by decide +kernel
  obtain ⟨-, op, target, hread, hstep, -⟩ := step_of_prefixed c h hop hpc
  obtain ⟨rfl, htarget⟩ := Statement.bits.inj (Option.some.inj (hread.symm.trans hshown))
  have hshift : shiftBits c.regs.flags (c.mem.read c.regs.hl) .rl =
      (0x03, ⟨false, false, false, true⟩) := by
    rw [hhl, hbyte]
    decide
  rw [htarget] at hstep
  refine ⟨h, hop, hpc, hhl, hbyte, rfl, hshown, ?_, ?_⟩
  · rw [hstep]
    show c.mem.write c.regs.hl (shiftBits c.regs.flags (c.mem.read c.regs.hl) .rl).1 = _
    rw [hshift, hhl]
  · rw [hstep]
    show { c.regs with
      pc := c.regs.pc + 2, flags := (shiftBits c.regs.flags (c.mem.read c.regs.hl) .rl).2 } = _
    rw [hshift]

end Cpu

end Lr35902
