import Lr35902.Proofs.Footprint

/-!
# Dependence

Which cells of memory a step looks at: those of the instruction itself, and those it loads from.
The opcode says by which address an instruction loads, if it loads at all (`Opcode.input`). Two
processors with the same registers that agree on these cells make the same step
(`step_eq_of_agree`), whatever else lies in their memories and whatever their opcode registers and
counters hold.
-/

namespace Lr35902

/-- The address by which an instruction loads. -/
inductive Input where
  | none
  | atHl
  | atBc
  | atDe
  | direct (nn : UInt16)
  | high (n : UInt8)
  | highC
  /-- The word on top of the stack. -/
  | stack
  deriving DecidableEq

namespace Input

/-- The operands of another instruction with the same opcode. -/
def withOperands (n : UInt8) (nn : UInt16) : Input → Input
  | .direct _ => .direct nn
  | .high _ => .high n
  | l => l

/-- The cells loaded from. -/
def cells (r : Registers) : Input → List UInt16
  | .none => []
  | .atHl => [r.hl]
  | .atBc => [r.bc]
  | .atDe => [r.de]
  | .direct nn => [nn]
  | .high n => [0xFF00 + n.toUInt16]
  | .highC => [0xFF00 + r.c.toUInt16]
  | .stack => [r.sp, r.sp + 1]

end Input

namespace Opcode

/-- The opcodes that read `(HL)`: loads from it, also with `HL` moving, `INC` and `DEC`, and the
operations on the accumulator. -/
def loadingAtHl : List Nat :=
  [0x2A, 0x3A, 0x34, 0x35, 0x46, 0x4E, 0x56, 0x5E, 0x66, 0x6E, 0x7E,
    0x86, 0x8E, 0x96, 0x9E, 0xA6, 0xAE, 0xB6, 0xBE]

/-- How the instruction with this opcode loads that is followed by the byte `n` and starts the
word `nn`. -/
def input (op n : UInt8) (nn : UInt16) : Input :=
  if op.toNat ∈ loadingAtHl then .atHl
  else if op = 0xCB then if n.toNat % 8 = 6 then .atHl else .none
  else if op = 0x0A then .atBc
  else if op = 0x1A then .atDe
  else if op = 0xFA then .direct nn
  else if op = 0xF0 then .high n
  else if op = 0xF2 then .highC
  else if op.toNat ∈ popping then .stack
  else .none

theorem input_eq_withOperands {op : UInt8} (n : UInt8) (nn : UInt16) (h : op ≠ 0xCB) :
    input op n nn = (input op 0 0).withOperands n nn := by
  unfold input
  simp only [if_neg h, apply_ite (Input.withOperands n nn)]
  rfl

end Opcode

def Operand.input : Operand → Input
  | .reg _ => .none
  | .atHl => .atHl

def Pointer.input : Pointer → Input
  | .bc => .atBc
  | .de => .atDe
  | .hlUp | .hlDown => .atHl

theorem Operand.input_ofBits (bits : Nat) :
    (ofBits bits).input = if bits % 8 = 6 then .atHl else .none := by
  unfold ofBits
  split <;> simp_all [input]

namespace Instr

def input : Instr → Input
  | .load _ source | .alu _ source => source.input
  | .inc target | .dec target => target.input
  | .cb (.shift _ target) | .cb (.test _ target) | .cb (.reset _ target) | .cb (.set _ target) =>
    target.input
  | .loadFrom p => p.input
  | .loadAt nn => .direct nn
  | .loadHigh n => .high n
  | .loadHighC => .highC
  | .pop _ | .ret | .retIf _ | .reti => .stack
  | _ => .none

theorem input_withOperands (n : UInt8) (nn : UInt16) {i : Instr} (h : i.isPrefixed = false) :
    (i.withOperands n nn).input = i.input.withOperands n nn := by
  cases i with
  | load target source => cases source <;> rfl
  | alu op source => cases source <;> rfl
  | inc target => cases target <;> rfl
  | dec target => cases target <;> rfl
  | loadFrom p => cases p <;> rfl
  | cb i => cases h
  | _ => rfl

theorem input_prefixed (n : UInt8) (nn : UInt16) :
    (decode 0xCB n nn).input = if n.toNat % 8 = 6 then .atHl else .none := by
  have htarget : (Operand.ofBits (Opcode.lower n)).input =
      if n.toNat % 8 = 6 then .atHl else .none := by
    rw [Operand.input_ofBits, Opcode.lower, Nat.mod_mod]
  rw [decode_prefixed, ← htarget]
  unfold CbInstr.decode
  split <;> rfl

theorem input_decode (op n : UInt8) (nn : UInt16) :
    (decode op n nn).input = Opcode.input op n nn := by
  by_cases hcb : op = 0xCB
  · subst hcb
    exact input_prefixed n nn
  · have all : ∀ op, op ≠ 0xCB → (decode op 0 0).input = Opcode.input op 0 0 := by decide +kernel
    have hpre : (decode op 0 0).isPrefixed = false := by
      rw [isPrefixed_decode]
      exact beq_false_of_ne hcb
    rw [decode_eq_withOperands, input_withOperands n nn hpre, all op hcb,
      ← Opcode.input_eq_withOperands n nn hcb]

/-- The cells an instruction loads from. -/
def reads (r : Registers) (i : Instr) : List UInt16 :=
  if i.taken r.flags then i.input.cells r else []

end Instr

/-! ### Execution -/

def Machine.core (m : Machine) : Registers × Bool := (m.regs, m.ime)

namespace Machine

variable {m : Machine} {mem : Memory}

theorem readOperand_congr {o : Operand}
    (h : ∀ a ∈ o.input.cells m.regs, mem.read a = m.mem.read a) :
    { m with mem := mem }.readOperand o = m.readOperand o := by
  cases o with
  | reg r => rfl
  | atHl => exact h _ (List.mem_singleton_self _)

theorem loadAccumulator_congr {a : UInt16} (h : mem.read a = m.mem.read a) :
    ({ m with mem := mem }.loadAccumulator a).core = (m.loadAccumulator a).core := by
  unfold loadAccumulator core
  rw [h]

theorem topWord_congr (h : ∀ a ∈ Input.stack.cells m.regs, mem.read a = m.mem.read a) :
    { m with mem := mem }.topWord = m.topWord := by
  have hlow : mem.read m.regs.sp = m.mem.read m.regs.sp := h _ (List.mem_cons_self ..)
  have hhigh : mem.read (m.regs.sp + 1) = m.mem.read (m.regs.sp + 1) := h _ (by simp [Input.cells])
  unfold topWord Memory.readWord
  rw [hlow, hhigh]

theorem core_writeOperand (o : Operand) (v : UInt8) :
    ({ m with mem := mem }.writeOperand o v).core = (m.writeOperand o v).core := by
  cases o <;> rfl

theorem core_setOperand (o : Operand) (r : UInt8 × Flags) :
    ({ m with mem := mem }.setOperand o r).core = (m.setOperand o r).core := by
  cases o <;> rfl

theorem core_movePointer {m' : Machine} (p : Pointer) (h : m'.core = m.core) :
    (m'.movePointer p).core = (m.movePointer p).core := by
  obtain ⟨hregs, hime⟩ := Prod.mk.inj h
  cases p with
  | bc | de => exact h
  | hlUp | hlDown =>
    unfold movePointer core
    rw [hregs, hime]

theorem cells_input_pointer (p : Pointer) : p.input.cells m.regs = [m.address p] := by
  cases p <;> rfl

end Machine

theorem CbInstr.core_exec {m : Machine} {mem : Memory} (i : CbInstr)
    (h : ∀ a ∈ (Instr.cb i).input.cells m.regs, mem.read a = m.mem.read a) :
    (i.exec { m with mem := mem }).core = (i.exec m).core := by
  cases i with
  | shift op target =>
    rw [exec, Machine.readOperand_congr h, Machine.core_setOperand]
    rfl
  | test bit target =>
    rw [exec, Machine.readOperand_congr h]
    rfl
  | reset bit target | set bit target =>
    rw [exec, Machine.readOperand_congr h, Machine.core_writeOperand]
    rfl

theorem Memory.read_write_of_mem {m m' : Memory} {a b : UInt16} (v : UInt8) (h : b ∈ [a]) :
    (m'.write a v).read b = (m.write a v).read b := by
  rw [List.mem_singleton.mp h, read_write_self, read_write_self]

theorem Memory.read_write_write_of_mem {m m' : Memory} {a₁ a₂ b : UInt16} (v₁ v₂ : UInt8)
    (h : b ∈ [a₁, a₂]) :
    ((m'.write a₁ v₁).write a₂ v₂).read b = ((m.write a₁ v₁).write a₂ v₂).read b := by
  by_cases hb : a₂ = b
  · rw [hb, read_write_self, read_write_self]
  · have h₁ : b ∈ [a₁] := by simpa [Ne.symm hb] using h
    rw [read_write_of_ne _ v₂ hb, read_write_of_ne _ v₂ hb]
    exact read_write_of_mem v₁ h₁

namespace Machine

variable {m : Machine} {mem : Memory} {a : UInt16}

theorem written_writeOperand (o : Operand) (v : UInt8) (h : a ∈ o.store.cells m.regs) :
    ({ m with mem := mem }.writeOperand o v).mem.read a = (m.writeOperand o v).mem.read a := by
  cases o with
  | reg r => cases h
  | atHl => exact Memory.read_write_of_mem v h

theorem written_setOperand (o : Operand) (r : UInt8 × Flags) (h : a ∈ o.store.cells m.regs) :
    ({ m with mem := mem }.setOperand o r).mem.read a = (m.setOperand o r).mem.read a := by
  cases o with
  | reg r => cases h
  | atHl => exact Memory.read_write_of_mem r.1 h

end Machine

theorem CbInstr.written_exec {m : Machine} {mem : Memory} {a : UInt16} (i : CbInstr)
    (h : ∀ a ∈ (Instr.cb i).input.cells m.regs, mem.read a = m.mem.read a)
    (ha : a ∈ (Instr.cb i).store.cells m.regs) :
    (i.exec { m with mem := mem }).mem.read a = (i.exec m).mem.read a := by
  cases i with
  | shift op target =>
    rw [exec, Machine.readOperand_congr h, Machine.written_setOperand target _ ha]
    rfl
  | test bit target => cases ha
  | reset bit target | set bit target =>
    rw [exec, Machine.readOperand_congr h, Machine.written_writeOperand target _ ha]
    rfl

namespace Instr

variable {m : Machine} {mem : Memory} {i : Instr} {a : UInt16}

/-- What an instruction makes of registers and interrupt switch depends on the cells it reads. -/
theorem core_exec (h : ∀ a ∈ i.reads m.regs, mem.read a = m.mem.read a) :
    (i.exec { m with mem := mem }).core = (i.exec m).core := by
  cases i with
  | load target source =>
    rw [exec, Machine.readOperand_congr h, Machine.core_writeOperand]
    rfl
  | loadImm target n => exact Machine.core_writeOperand target n
  | loadFrom p =>
    have hp : mem.read (m.address p) = m.mem.read (m.address p) := by
      apply h
      show _ ∈ p.input.cells m.regs
      rw [Machine.cells_input_pointer]
      exact List.mem_singleton_self _
    exact Machine.core_movePointer p (Machine.loadAccumulator_congr hp)
  | storeTo p => exact Machine.core_movePointer p rfl
  | loadAt | loadHigh | loadHighC =>
    exact Machine.loadAccumulator_congr (h _ (List.mem_singleton_self _))
  | alu op source =>
    rw [exec, Machine.readOperand_congr h]
    rfl
  | inc target | dec target =>
    rw [exec, Machine.readOperand_congr h, Machine.core_setOperand]
    rfl
  | pop pair =>
    rw [exec, Machine.topWord_congr h]
    rfl
  | ret | reti =>
    rw [exec, Machine.returnWord, Machine.topWord_congr h]
    rfl
  | retIf cc =>
    show Machine.core (if cc.holds m.regs.flags then _ else _) = _
    rw [exec]
    by_cases htaken : cc.holds m.regs.flags = true
    · have hstack : ∀ a ∈ Input.stack.cells m.regs, mem.read a = m.mem.read a := by
        rwa [reads, taken, condition?, if_pos htaken] at h
      rw [if_pos htaken, if_pos htaken, Machine.returnWord, Machine.topWord_congr hstack]
      rfl
    · rw [if_neg htaken, if_neg htaken]
      rfl
  | jpIf cc | jrIf cc | callIf cc =>
    show Machine.core (if cc.holds m.regs.flags then _ else _) = _
    rw [exec]
    split <;> rfl
  | cb i => exact i.core_exec h
  | _ => rfl

theorem written_exec (h : ∀ a ∈ i.reads m.regs, mem.read a = m.mem.read a)
    (ha : a ∈ i.footprint m.regs) :
    (i.exec { m with mem := mem }).mem.read a = (i.exec m).mem.read a := by
  cases i with
  | load target source =>
    rw [exec, Machine.readOperand_congr h, Machine.written_writeOperand target _ ha]
    rfl
  | loadImm target n => exact Machine.written_writeOperand target n ha
  | inc target | dec target =>
    rw [exec, Machine.readOperand_congr h, Machine.written_setOperand target _ ha]
    rfl
  | storeTo p =>
    have hp : a ∈ [m.address p] := by
      rw [← Machine.cells_pointer]
      exact ha
    rw [exec, exec, Machine.mem_movePointer, Machine.mem_movePointer]
    exact Memory.read_write_of_mem _ hp
  | storeAt | storeHigh | storeHighC => exact Memory.read_write_of_mem _ ha
  | storeSp | push | call | rst => exact Memory.read_write_write_of_mem _ _ ha
  | callIf cc nn =>
    show Memory.read (Machine.mem (if cc.holds m.regs.flags then _ else _)) a = _
    rw [exec]
    by_cases htaken : cc.holds m.regs.flags = true
    · rw [if_pos htaken, if_pos htaken]
      rw [footprint, taken, condition?, if_pos htaken] at ha
      exact Memory.read_write_write_of_mem _ _ ha
    · rw [footprint, taken, condition?, if_neg htaken] at ha
      cases ha
  | cb i => exact i.written_exec h ha
  | jpIf cc | jrIf cc | retIf cc =>
    rw [footprint] at ha
    split at ha <;> cases ha
  | _ => cases ha

end Instr

/-! ### Steps -/

namespace Cpu

variable {c c' : Cpu}

/-- The cell at `a` holds a byte of the instruction at the program counter. -/
def Occupies (c : Cpu) (a : UInt16) : Prop :=
  c.regs.pc.toNat ≤ a.toNat ∧ a.toNat < c.regs.pc.toNat + Opcode.length (c.mem.read c.regs.pc)

/-- The cells a step loads from; none if it halts the processor or if a return is not taken. -/
def readable (c : Cpu) : List UInt16 :=
  let op := c.mem.read c.regs.pc
  let input := Opcode.input op (c.mem.read (c.regs.pc + 1)) (c.mem.readWord (c.regs.pc + 1))
  if c.step.isHalted then []
  else if Opcode.taken c.regs.flags op then input.cells c.regs
  else []

theorem reads_nextInstr (h : c.isHalted = false) (hs : c.step.isHalted = false) :
    c.nextInstr.reads c.regs = c.readable := by
  have hle := le_of_no_cause (cause?_eq_none h hs)
  unfold Instr.reads readable
  rw [nextInstr_eq hle, Instr.taken_decode, Instr.input_decode, hs]
  rfl

theorem reads_consumed (c : Cpu) (i : Instr) : i.reads c.consumed.regs = i.reads c.regs := by
  unfold Instr.reads
  cases i.input <;> rfl

/-- Two processors whose next steps find the same: registers, interrupt switch, the instruction and
the data it loads. -/
structure Agrees (c c' : Cpu) : Prop where
  regs : c'.regs = c.regs
  ime : c'.ime = c.ime
  code : ∀ a, c.Occupies a → c'.mem.read a = c.mem.read a
  data : ∀ a ∈ c.readable, c'.mem.read a = c.mem.read a

namespace Agrees

theorem nextInstr_eq (e : c.Agrees c') : c'.nextInstr = c.nextInstr := by
  unfold nextInstr
  rw [e.regs]
  exact Memory.instrAt_congr fun b hge hlt => e.code b ⟨hge, hlt⟩

theorem nextPc_eq (e : c.Agrees c') : c'.nextPc = c.nextPc := by
  unfold nextPc
  rw [e.nextInstr_eq, e.regs]

theorem consumed_eq (e : c.Agrees c') :
    c'.consumed.toMachine = { c.consumed.toMachine with mem := c'.mem } := by
  show Machine.mk { c'.regs with pc := c'.nextPc } c'.mem c'.ime = _
  rw [e.regs, e.ime, e.nextPc_eq]
  rfl

theorem cause?_eq (e : c.Agrees c') : c'.cause? = c.cause? := by
  unfold cause?
  rw [e.consumed_eq, e.nextInstr_eq, e.regs]

theorem opcode_eq (e : c.Agrees c') : c'.mem.read c'.regs.pc = c.mem.read c.regs.pc := by
  rw [e.regs]
  apply e.code
  have hpos := Opcode.length_pos (c.mem.read c.regs.pc)
  exact ⟨Nat.le_refl _, by omega⟩

/-- The second byte of a two-byte opcode is part of the instruction. -/
theorem second_eq (e : c.Agrees c') (hle : c.regs.pc.toNat + c.nextInstr.length ≤ 0xFFFF)
    (hp : c.nextInstr.isPrefixed = true) :
    c'.mem.read (c.regs.pc + 1) = c.mem.read (c.regs.pc + 1) := by
  have hlen : c.nextInstr.length = 2 := by
    generalize c.nextInstr = i at hp
    cases i <;> first | rfl | cases hp
  have hpc : (c.regs.pc + 1).toNat = c.regs.pc.toNat + 1 := by
    rw [UInt16.toNat_add, UInt16.toNat_one]
    omega
  apply e.code
  unfold Occupies
  rw [← length_nextInstr]
  omega

theorem latched_eq (e : c.Agrees c') (hle : c.regs.pc.toNat + c.nextInstr.length ≤ 0xFFFF) :
    c'.latched.opcode = c.latched.opcode ∧ c'.latched.opcodeAddress = c.latched.opcodeAddress ∧
      c'.latched.prefixed = c.latched.prefixed := by
  unfold latched
  rw [e.nextInstr_eq]
  cases hp : c.nextInstr.isPrefixed with
  | true =>
    simp only [if_true, e.regs]
    exact ⟨e.second_eq hle hp, trivial, trivial⟩
  | false => exact ⟨e.opcode_eq, congrArg Registers.pc e.regs, rfl⟩

theorem isHalted_step_eq (e : c.Agrees c') (h : c.isHalted = false) (h' : c'.isHalted = false) :
    c'.step.isHalted = c.step.isHalted := by
  rw [isHalted_step h, isHalted_step h', e.cause?_eq]

theorem reads_eq (e : c.Agrees c') (h : c.isHalted = false) (hs : c.step.isHalted = false) :
    ∀ a ∈ c.nextInstr.reads c.consumed.regs, c'.mem.read a = c.consumed.mem.read a := by
  rw [reads_consumed, reads_nextInstr h hs]
  exact e.data

theorem toMachine_step (e : c.Agrees c') (h : c.isHalted = false) (h' : c'.isHalted = false)
    (hc : c.cause? = none) :
    c.step.toMachine = c.nextInstr.exec c.consumed.toMachine ∧
      c'.step.toMachine = c.nextInstr.exec { c.consumed.toMachine with mem := c'.mem } := by
  have hc' := e.cause?_eq.trans hc
  rw [step_of_no_cause h hc, step_of_no_cause h' hc', e.nextInstr_eq, e.consumed_eq]
  exact ⟨rfl, rfl⟩

theorem core_step_eq (e : c.Agrees c') (h : c.isHalted = false) (h' : c'.isHalted = false) :
    c'.step.core = c.step.core := by
  cases hc : c.cause? with
  | none =>
    have hs : c.step.isHalted = false := by
      rw [isHalted_step h, hc]
      rfl
    obtain ⟨hm, hm'⟩ := e.toMachine_step h h' hc
    rw [hm, hm']
    exact Instr.core_exec (e.reads_eq h hs)
  | some reason =>
    have hc' := e.cause?_eq.trans hc
    rw [step_eq_of_cause h hc, step_eq_of_cause h' hc']
    show c'.consumed.core = c.consumed.core
    rw [e.consumed_eq]
    rfl

theorem latch_step_eq (e : c.Agrees c') (h : c.isHalted = false) (h' : c'.isHalted = false) :
    c'.step.opcode = c.step.opcode ∧ c'.step.opcodeAddress = c.step.opcodeAddress ∧
      c'.step.prefixed = c.step.prefixed := by
  cases hc : c.cause? with
  | none =>
    have hc' := e.cause?_eq.trans hc
    rw [step_of_no_cause h hc, step_of_no_cause h' hc']
    exact e.latched_eq (le_of_no_cause hc)
  | some reason =>
    have hc' := e.cause?_eq.trans hc
    rw [step_eq_of_cause h hc, step_eq_of_cause h' hc']
    exact ⟨e.opcode_eq, congrArg Registers.pc e.regs, rfl⟩

theorem writable_eq (e : c.Agrees c') (h : c.isHalted = false) (h' : c'.isHalted = false) :
    c'.writable = c.writable := by
  have hhalt := e.isHalted_step_eq h h'
  cases hs : c.step.isHalted with
  | false =>
    rw [hs] at hhalt
    rw [← footprint_nextInstr h hs, ← footprint_nextInstr h' hhalt, e.nextInstr_eq, e.regs]
  | true =>
    rw [hs] at hhalt
    unfold writable
    rw [hs, hhalt]
    rfl

theorem written_step_eq (e : c.Agrees c') (h : c.isHalted = false) (h' : c'.isHalted = false)
    {a : UInt16} (ha : a ∈ c.writable) : c'.step.mem.read a = c.step.mem.read a := by
  cases hs : c.step.isHalted with
  | false =>
    rw [← footprint_nextInstr h hs, ← footprint_consumed] at ha
    obtain ⟨hm, hm'⟩ := e.toMachine_step h h' (cause?_eq_none h hs)
    rw [hm, hm']
    exact Instr.written_exec (e.reads_eq h hs) ha
  | true =>
    unfold writable at ha
    rw [hs] at ha
    cases ha

end Agrees

/-- Two running processors with the same registers and interrupt switch that hold the same bytes in
the cells of the next instruction and in those it loads from make the same step. They agree
afterwards on registers, interrupt switch, opcode register, status and reason, have counted alike
and have stored the same bytes in the same cells; every other cell is as it was. Opcode registers
and counters before the step do not matter. -/
theorem step_eq_of_agree (c c' : Cpu) (h : c.isHalted = false) (h' : c'.isHalted = false)
    (hregs : c'.regs = c.regs) (hime : c'.ime = c.ime)
    (hcode : ∀ a, c.Occupies a → c'.mem.read a = c.mem.read a)
    (hdata : ∀ a ∈ c.readable, c'.mem.read a = c.mem.read a) :
    c'.step.regs = c.step.regs ∧ c'.step.ime = c.step.ime ∧
      c'.step.opcode = c.step.opcode ∧ c'.step.opcodeAddress = c.step.opcodeAddress ∧
      c'.step.prefixed = c.step.prefixed ∧
      c'.step.isHalted = c.step.isHalted ∧ c'.step.reason? = c.step.reason? ∧
      (∃ n, c.step.executed = c.executed + n ∧ c'.step.executed = c'.executed + n) ∧
      c'.writable = c.writable ∧ (∀ a ∈ c.writable, c'.step.mem.read a = c.step.mem.read a) ∧
      ∀ a ∉ c.writable, c.step.mem.read a = c.mem.read a ∧ c'.step.mem.read a = c'.mem.read a := by
  have e : c.Agrees c' := ⟨hregs, hime, hcode, hdata⟩
  obtain ⟨hregs', hime'⟩ := Prod.mk.inj (e.core_step_eq h h')
  obtain ⟨hopcode, haddress, hprefixed⟩ := e.latch_step_eq h h'
  have hhalt := e.isHalted_step_eq h h'
  have hwritable := e.writable_eq h h'
  refine ⟨hregs', hime', hopcode, haddress, hprefixed, hhalt, ?_, ?_, hwritable, ?_, ?_⟩
  · rw [reason?_step h, reason?_step h', e.cause?_eq]
  · refine ⟨_, executed_step h, ?_⟩
    rw [executed_step h', hhalt]
  · intro a ha
    exact e.written_step_eq h h' ha
  · intro a ha
    refine ⟨read_step ha, read_step ?_⟩
    rw [hwritable]
    exact ha

/-- A processor with another byte at `a` and an opcode register left over from the second page. -/
def disturbed (c : Cpu) (a : UInt16) (v : UInt8) : Cpu :=
  { c with
    mem := c.mem.write a v
    opcode := 0x37
    opcodeAddress := a
    prefixed := true
    executed := c.executed + 7 }

theorem core_disturbed (c : Cpu) (a : UInt16) (v : UInt8) :
    (c.disturbed a v).isHalted = c.isHalted ∧ (c.disturbed a v).regs = c.regs ∧
      (c.disturbed a v).ime = c.ime := ⟨rfl, rfl, rfl⟩

/-- `INC (HL)` does not see the byte behind its own. -/
theorem step_eq_of_agree_inc :
    let c := started [0x34]
    let c' := c.disturbed 0x0101 0x55
    c.readable = [0x014D] ∧ c.writable = [0x014D] ∧ c'.step.mem.read 0x014D = 0x01 ∧
      c'.step.opcode = 0x34 ∧ c'.step.prefixed = false := by
  intro c c'
  have hread : c.readable = [0x014D] := by decide +kernel
  have hwrite : c.writable = [0x014D] := by decide +kernel
  have hcode : ∀ a, c.Occupies a → c'.mem.read a = c.mem.read a := by
    intro a ha
    have hend : c.regs.pc.toNat + Opcode.length (c.mem.read c.regs.pc) = 0x0101 := by
      decide +kernel
    refine Memory.read_write_of_ne _ _ ?_
    rintro rfl
    exact absurd ha.2 (by rw [hend]; decide)
  have hdata : ∀ a ∈ c.readable, c'.mem.read a = c.mem.read a := by
    rw [hread]
    intro a ha
    rw [List.mem_singleton.mp ha]
    exact Memory.read_write_of_ne _ _ (by decide)
  obtain ⟨hstatus, hregs, hime⟩ := core_disturbed c 0x0101 0x55
  obtain ⟨-, -, hopcode, -, hprefixed, -, -, -, -, hwritten, -⟩ :=
    step_eq_of_agree c c' rfl hstatus hregs hime hcode hdata
  refine ⟨hread, hwrite, ?_, hopcode.trans ?_, hprefixed.trans ?_⟩
  · rw [hwritten 0x014D (by rw [hwrite]; decide)]
    decide +kernel
  · decide +kernel
  · decide +kernel

end Cpu

end Lr35902
