import Lr35902.Proofs.Runs

/-!
# Footprints

Which cells of memory a step may change. The opcode says by which address an instruction stores, if
it stores at all (`Opcode.store`); the cells themselves follow from operands and registers before
the step. Every other cell keeps its value, over one step and over any number of them
(`read_of_not_writable`).
-/

namespace Lr35902

/-- The address by which an instruction stores. -/
inductive Store where
  | none
  | atHl
  | atBc
  | atDe
  | direct (nn : UInt16)
  | high (n : UInt8)
  | highC
  | word (nn : UInt16)
  | stack
  deriving DecidableEq

def Store.withOperands (n : UInt8) (nn : UInt16) : Store → Store
  | .direct _ => .direct nn
  | .high _ => .high n
  | .word _ => .word nn
  | s => s

/-- The cells stored to. -/
def Store.cells (r : Registers) : Store → List UInt16
  | .none => []
  | .atHl => [r.hl]
  | .atBc => [r.bc]
  | .atDe => [r.de]
  | .direct nn => [nn]
  | .high n => [0xFF00 + n.toUInt16]
  | .highC => [0xFF00 + r.c.toUInt16]
  | .word nn => [nn, nn + 1]
  | .stack => [r.sp - 1, r.sp - 2]

namespace Opcode

/-- The opcodes of `LD (HL)`, `LD (HL+)`, `LD (HL-)`, `INC (HL)` and `DEC (HL)`. -/
def storingAtHl : List Nat :=
  [0x22, 0x32, 0x34, 0x35, 0x36, 0x70, 0x71, 0x72, 0x73, 0x74, 0x75, 0x77]

/-- Whether an opcode of the second page works on `(HL)` and is not that of a bit test. -/
def changesAtHl (op : UInt8) : Bool := op.toNat % 8 = 6 && op.toNat / 64 ≠ 1

/-- How the instruction with this opcode stores that is followed by the byte `n` and starts the
word `nn`. -/
def store (op n : UInt8) (nn : UInt16) : Store :=
  if op.toNat ∈ storingAtHl then .atHl
  else if op = 0xCB then if changesAtHl n then .atHl else .none
  else if op = 0x02 then .atBc
  else if op = 0x12 then .atDe
  else if op = 0xEA then .direct nn
  else if op = 0xE0 then .high n
  else if op = 0xE2 then .highC
  else if op = 0x08 then .word nn
  else if op.toNat ∈ pushing then .stack
  else .none

theorem store_eq_withOperands {op : UInt8} (n : UInt8) (nn : UInt16) (h : op ≠ 0xCB) :
    store op n nn = (store op 0 0).withOperands n nn := by
  unfold store
  simp only [if_neg h, apply_ite (Store.withOperands n nn)]
  rfl

end Opcode

def Operand.store : Operand → Store
  | .reg _ => .none
  | .atHl => .atHl

def Pointer.store : Pointer → Store
  | .bc => .atBc
  | .de => .atDe
  | .hlUp | .hlDown => .atHl

namespace Instr

def store : Instr → Store
  | .load target _ | .loadImm target _ | .inc target | .dec target => target.store
  | .cb (.shift _ target) | .cb (.reset _ target) | .cb (.set _ target) => target.store
  | .storeTo p => p.store
  | .storeAt nn => .direct nn
  | .storeHigh n => .high n
  | .storeHighC => .highC
  | .storeSp nn => .word nn
  | .push _ | .call _ | .callIf .. | .rst _ => .stack
  | _ => .none

theorem store_withOperands (n : UInt8) (nn : UInt16) {i : Instr} (h : i.isPrefixed = false) :
    (i.withOperands n nn).store = i.store.withOperands n nn := by
  cases i with
  | load target source => cases target <;> rfl
  | loadImm target n => cases target <;> rfl
  | inc target => cases target <;> rfl
  | dec target => cases target <;> rfl
  | storeTo p => cases p <;> rfl
  | cb i => cases h
  | _ => rfl

theorem store_prefixed (n : UInt8) (nn : UInt16) :
    (decode 0xCB n nn).store = if Opcode.changesAtHl n then .atHl else .none := by
  have all : ∀ n, (Instr.cb (.decode n)).store =
      if Opcode.changesAtHl n then .atHl else .none := by decide +kernel
  exact all n

theorem store_decode (op n : UInt8) (nn : UInt16) :
    (decode op n nn).store = Opcode.store op n nn := by
  -- Behind `CB` it is the operand byte that decides; all other opcodes decide by themselves.
  by_cases hcb : op = 0xCB
  · subst hcb
    exact store_prefixed n nn
  · have all : ∀ op, op ≠ 0xCB → (decode op 0 0).store = Opcode.store op 0 0 := by decide +kernel
    have hpre : (decode op 0 0).isPrefixed = false := by
      rw [isPrefixed_decode]
      exact beq_false_of_ne hcb
    rw [decode_eq_withOperands, store_withOperands n nn hpre, all op hcb,
      ← Opcode.store_eq_withOperands n nn hcb]

/-- The cells an instruction stores to. -/
def footprint (r : Registers) (i : Instr) : List UInt16 :=
  if i.taken r.flags then i.store.cells r else []

end Instr

/-! ### Execution -/

theorem Memory.read_write_of_not_mem (m : Memory) {a b : UInt16} (v : UInt8) (h : b ∉ [a]) :
    (m.write a v).read b = m.read b :=
  m.read_write_of_ne v fun hab => h (by rw [hab]; exact List.mem_singleton_self b)

theorem Memory.read_write_write_of_not_mem (m : Memory) {a₁ a₂ b : UInt16} (v₁ v₂ : UInt8)
    (h : b ∉ [a₁, a₂]) : ((m.write a₁ v₁).write a₂ v₂).read b = m.read b := by
  rw [List.mem_cons, not_or] at h
  rw [read_write_of_not_mem _ v₂ h.2, read_write_of_ne _ v₁ (Ne.symm h.1)]

namespace Machine

variable (m : Machine) {a : UInt16}

theorem read_writeOperand (o : Operand) (v : UInt8) (h : a ∉ o.store.cells m.regs) :
    (m.writeOperand o v).mem.read a = m.mem.read a := by
  cases o with
  | reg r => rfl
  | atHl => exact Memory.read_write_of_not_mem _ v h

theorem read_setOperand (o : Operand) (r : UInt8 × Flags) (h : a ∉ o.store.cells m.regs) :
    (m.setOperand o r).mem.read a = m.mem.read a := by
  cases o with
  | reg r => rfl
  | atHl => exact Memory.read_write_of_not_mem _ r.1 h

theorem mem_movePointer (p : Pointer) : (m.movePointer p).mem = m.mem := by
  cases p <;> rfl

theorem cells_pointer (p : Pointer) : p.store.cells m.regs = [m.address p] := by
  cases p <;> rfl

theorem read_pushWord (w : UInt16) (h : a ∉ Store.stack.cells m.regs) :
    (m.pushWord w).mem.read a = m.mem.read a :=
  Memory.read_write_write_of_not_mem _ _ _ h

end Machine

theorem CbInstr.read_exec (m : Machine) (i : CbInstr) {a : UInt16}
    (h : a ∉ (Instr.cb i).store.cells m.regs) : (i.exec m).mem.read a = m.mem.read a := by
  cases i with
  | shift op target => exact m.read_setOperand target _ h
  | test bit target => rfl
  | reset bit target => exact m.read_writeOperand target _ h
  | set bit target => exact m.read_writeOperand target _ h

theorem Instr.read_exec (m : Machine) (i : Instr) {a : UInt16} (h : a ∉ i.footprint m.regs) :
    (i.exec m).mem.read a = m.mem.read a := by
  cases i with
  | load target source => exact m.read_writeOperand target _ h
  | loadImm target n => exact m.read_writeOperand target n h
  | inc target => exact m.read_setOperand target _ h
  | dec target => exact m.read_setOperand target _ h
  | cb i => exact i.read_exec m h
  | loadFrom p =>
    show ((m.loadAccumulator (m.address p)).movePointer p).mem.read a = _
    rw [Machine.mem_movePointer]
    rfl
  | storeTo p =>
    show ((m.store (m.address p) m.regs.a).movePointer p).mem.read a = _
    have hp : a ∉ [m.address p] := by
      rw [← Machine.cells_pointer]
      exact h
    rw [Machine.mem_movePointer]
    exact Memory.read_write_of_not_mem _ _ hp
  | storeAt | storeHigh | storeHighC => exact Memory.read_write_of_not_mem _ _ h
  | storeSp nn => exact Memory.read_write_write_of_not_mem _ _ _ h
  | push pair => exact m.read_pushWord _ h
  | call nn => exact m.read_pushWord _ h
  | rst slot => exact m.read_pushWord _ h
  | callIf cc nn =>
    show Memory.read (if cc.holds m.regs.flags then m.callWord nn else m).mem a = _
    split
    · rename_i htaken
      exact m.read_pushWord _ (by rwa [footprint, taken, condition?, if_pos htaken] at h)
    · rfl
  | jpIf cc nn | jrIf cc offset | retIf cc =>
    rw [exec]
    split <;> rfl
  | _ => rfl

/-! ### Steps -/

namespace Cpu

variable {c : Cpu} {a : UInt16}

/-- The cells a step may change; none if it halts the processor or a call is not taken. -/
def writable (c : Cpu) : List UInt16 :=
  let op := c.mem.read c.regs.pc
  let store := Opcode.store op (c.mem.read (c.regs.pc + 1)) (c.mem.readWord (c.regs.pc + 1))
  if c.step.isHalted then []
  else if Opcode.taken c.regs.flags op then store.cells c.regs
  else []

theorem footprint_nextInstr (h : c.isHalted = false) (hs : c.step.isHalted = false) :
    c.nextInstr.footprint c.regs = c.writable := by
  have hle := le_of_no_cause (cause?_eq_none h hs)
  unfold Instr.footprint writable
  rw [nextInstr_eq hle, Instr.taken_decode, Instr.store_decode, hs]
  rfl

theorem footprint_consumed (c : Cpu) (i : Instr) :
    i.footprint c.consumed.regs = i.footprint c.regs := by
  unfold Instr.footprint
  cases i.store <;> rfl

/-- A step changes nothing but writable cells. -/
theorem read_step (ha : a ∉ c.writable) : c.step.mem.read a = c.mem.read a := by
  cases h : c.isHalted with
  | true => rw [step_of_halted h]
  | false =>
    cases hc : c.cause? with
    | none =>
      have hs : c.step.isHalted = false := by
        rw [isHalted_step h, hc]
        rfl
      rw [← footprint_nextInstr h hs, ← footprint_consumed] at ha
      rw [step_of_no_cause h hc]
      exact Instr.read_exec c.consumed.toMachine c.nextInstr ha
    | some reason =>
      rw [step_eq_of_cause h hc]
      rfl

theorem read_iterate {n : Nat} (ha : ∀ k < n, a ∉ (step^[k] c).writable) :
    (step^[n] c).mem.read a = c.mem.read a := by
  induction n with
  | zero => rfl
  | succ n ih =>
    rw [Function.iterate_succ_apply', read_step (ha n (Nat.lt_succ_self n))]
    exact ih fun k hk => ha k (Nat.lt_succ_of_lt hk)

/-- A cell that a step may not change keeps its value, and so does a cell that no step on the way
may change. -/
theorem read_of_not_writable (c : Cpu) :
    (∀ a, a ∉ c.writable → c.step.mem.read a = c.mem.read a) ∧
    ∀ n a, (∀ k < n, a ∉ (step^[k] c).writable) →
      (step^[n] c).mem.read a = c.mem.read a ∧
        (c.run (some n)).2.mem.read a = c.mem.read a := by
  refine ⟨fun a => read_step, fun n a ha => ⟨read_iterate ha, ?_⟩⟩
  rw [run_some]
  exact read_iterate ha

/-- `LD (FFFF),SP` wraps round to the first cell; the one behind it is out of reach. -/
theorem read_of_not_writable_wrap :
    let c := started [0x08, 0xFF, 0xFF]
    c.writable = [0xFFFF, 0x0000] ∧ c.step.mem.read 0x0000 = 0xFF ∧
      c.step.mem.read 0x0001 = c.mem.read 0x0001 := by
  intro c
  have hcells : c.writable = [0xFFFF, 0x0000] := by decide +kernel
  have hnot : 0x0001 ∉ c.writable := by
    rw [hcells]
    decide
  exact ⟨hcells, by decide +kernel, (read_of_not_writable c).1 0x0001 hnot⟩

end Cpu

end Lr35902
