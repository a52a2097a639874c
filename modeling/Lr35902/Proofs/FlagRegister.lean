import Lr35902.Proofs.Outcome
import Lr35902.Proofs.Byte

/-!
# The flag register

In the processor the flags are one byte, and there are two ways to write it: a whole byte, of which
the low half is masked off, or a single bit. `flagWrites` lists the writes that a call of the
arithmetic unit or an instruction makes. The four flags of the machine are what those writes leave
in the byte (`Instr.flags_exec`), and none of them touches its low half (`FlagWrite.low_foldl`).
-/

namespace Lr35902

/-- A write to the flag register. -/
inductive FlagWrite where
  | whole (v : UInt8)
  | bit (flag : Flag) (v : Bool)
  deriving DecidableEq, Repr

namespace FlagWrite

/-- The byte after a write. -/
def apply (f : UInt8) : FlagWrite → UInt8
  | .whole v => v &&& 0xF0
  | .bit flag v => if v then f ||| flag.mask else f &&& ~~~flag.mask

/-- The flags after a write. -/
def onFlags (f : Flags) : FlagWrite → Flags
  | .whole v => .ofByte v
  | .bit flag v => f.set flag v

/-- One write for each flag. -/
def all (f : Flags) : List FlagWrite :=
  [.bit .zero f.zero, .bit .subtract f.subtract, .bit .halfCarry f.halfCarry, .bit .carry f.carry]

theorem low_and (v : UInt8) {w : UInt8} (h : w &&& 0x0F = 0) : (v &&& w) &&& 0x0F = 0 := by
  rw [UInt8.and_assoc, h, UInt8.and_zero]

theorem low_or {v w : UInt8} (hv : v &&& 0x0F = 0) (hw : w &&& 0x0F = 0) :
    (v ||| w) &&& 0x0F = 0 := by
  have hsplit : (v ||| w) &&& 0x0F = (v &&& 0x0F) ||| (w &&& 0x0F) := by
    apply Byte.ext
    intro i
    simp only [Byte.bit_and, Byte.bit_or, Bool.and_or_distrib_right]
  rw [hsplit, hv, hw]
  rfl

theorem low_mask (flag : Flag) : flag.mask &&& 0x0F = 0 := by
  cases flag <;> rfl

/-- No write touches the low half of the byte. -/
theorem low_apply {f : UInt8} (w : FlagWrite) (h : f &&& 0x0F = 0) : w.apply f &&& 0x0F = 0 := by
  cases w with
  | whole v => exact low_and v rfl
  | bit flag v =>
    cases v with
    | true => exact low_or h (low_mask flag)
    | false =>
      show (f &&& ~~~flag.mask) &&& 0x0F = 0
      rw [UInt8.and_comm f]
      exact low_and _ h

theorem low_foldl {f : UInt8} (ws : List FlagWrite) (h : f &&& 0x0F = 0) :
    ws.foldl apply f &&& 0x0F = 0 := by
  induction ws generalizing f with
  | nil => exact h
  | cons w ws ih => exact ih (low_apply w h)

theorem bit_toByte (f : Flags) (i : Fin 8) :
    Byte.bit f.toByte i =
      if i = 7 then f.zero else if i = 6 then f.subtract else if i = 5 then f.halfCarry
      else if i = 4 then f.carry else false := by
  obtain ⟨z, n, h, c⟩ := f
  cases z <;> cases n <;> cases h <;> cases c <;> revert i <;> decide

theorem toByte_ofByte (v : UInt8) : (Flags.ofByte v).toByte = v &&& 0xF0 := by
  have hhigh : ∀ i : Fin 8, Byte.bit 0xF0 i = decide (4 ≤ i) := by decide
  apply Byte.ext
  intro i
  rw [Byte.bit_and, bit_toByte, hhigh]
  match i with
  | 0 | 1 | 2 | 3 => exact (Bool.and_false _).symm
  | 4 | 5 | 6 | 7 => exact (Bool.and_true _).symm

theorem toByte_set (f : Flags) (flag : Flag) (v : Bool) :
    (f.set flag v).toByte = (bit flag v).apply f.toByte := by
  obtain ⟨z, n, h, c⟩ := f
  cases flag <;> cases v <;> cases z <;> cases n <;> cases h <;> cases c <;> rfl

theorem get_eq (f : Flags) (flag : Flag) : f.get flag = (f.toByte &&& flag.mask != 0) := by
  obtain ⟨z, n, h, c⟩ := f
  cases flag <;> cases z <;> cases n <;> cases h <;> cases c <;> rfl

theorem toByte_onFlags (f : Flags) (w : FlagWrite) : (w.onFlags f).toByte = w.apply f.toByte := by
  cases w with
  | whole v => exact toByte_ofByte v
  | bit flag v => exact toByte_set f flag v

/-- The flags follow the byte over any number of writes. -/
theorem toByte_foldl (f : Flags) (ws : List FlagWrite) :
    (ws.foldl onFlags f).toByte = ws.foldl apply f.toByte := by
  induction ws generalizing f with
  | nil => rfl
  | cons w ws ih =>
    rw [List.foldl_cons, List.foldl_cons, ih, toByte_onFlags]

end FlagWrite

open FlagWrite (onFlags)

/-! ### The arithmetic unit -/

/-- A call of the arithmetic unit that sets flags. -/
inductive Routine where
  | arith (op : AluOp) (a v : UInt8)
  | shift (op : ShiftOp) (v : UInt8)
  | inc (v : UInt8)
  | dec (v : UInt8)
  | addWords (a b : UInt16)
  | addOffset (w : UInt16) (offset : UInt8)
  | testBit (bit v : UInt8)
  | daa (v : UInt8)
  | complement (v : UInt8)

namespace Routine

def flags (f : Flags) : Routine → Flags
  | .arith op a v => (op.apply f a v).2
  | .shift op v => (op.apply f v).2
  | .inc v => (Alu.inc f v).2
  | .dec v => (Alu.dec f v).2
  | .addWords a b => (Alu.addWords f a b).2
  | .addOffset w offset => (Alu.addOffset w offset).2
  | .testBit bit v => Alu.testBit f bit v
  | .daa v => (Alu.daa f v).2
  | .complement v => (Alu.complement f v).2

/-- The writes the call makes. What it does not write, it keeps. -/
def flagWrites (f : Flags) (r : Routine) : List FlagWrite :=
  let g := r.flags f
  match r with
  | .arith .. | .shift .. | .addOffset .. => FlagWrite.all g
  | .inc _ | .dec _ | .testBit .. =>
    [.bit .zero g.zero, .bit .subtract g.subtract, .bit .halfCarry g.halfCarry]
  | .addWords .. =>
    [.bit .subtract g.subtract, .bit .halfCarry g.halfCarry, .bit .carry g.carry]
  | .daa _ => [.bit .zero g.zero, .bit .halfCarry g.halfCarry, .bit .carry g.carry]
  | .complement _ => [.bit .subtract g.subtract, .bit .halfCarry g.halfCarry]

theorem flags_eq (f : Flags) (r : Routine) : r.flags f = (r.flagWrites f).foldl onFlags f := by
  cases r <;> rfl

end Routine

/-! ### Instructions -/

def Reg16.flagWrites (w : UInt16) : Reg16 → List FlagWrite
  | .af => [.whole (Word.low w)]
  | _ => []

theorem Reg16.flags_setPair (r : Registers) (pair : Reg16) (w : UInt16) :
    (r.setPair pair w).flags = (pair.flagWrites w).foldl onFlags r.flags := by
  cases pair <;> rfl

/-- The writes of a rotation of the accumulator, which clears the zero flag afterwards. -/
def ShiftOp.accumulatorWrites (f : Flags) (a : UInt8) (op : ShiftOp) : List FlagWrite :=
  (Routine.shift op a).flagWrites f ++ [.bit .zero false]

def CbInstr.flagWrites (m : Machine) : CbInstr → List FlagWrite
  | .shift op target => (Routine.shift op (m.readOperand target)).flagWrites m.regs.flags
  | .test bit target =>
    (Routine.testBit (.ofNat bit) (m.readOperand target)).flagWrites m.regs.flags
  | .reset .. | .set .. => []

/-- The writes an instruction makes. A pop that fails makes none. -/
def Instr.flagWrites (m : Machine) : Instr → List FlagWrite
  | .alu op source => (Routine.arith op m.regs.a (m.readOperand source)).flagWrites m.regs.flags
  | .aluImm op n => (Routine.arith op m.regs.a n).flagWrites m.regs.flags
  | .inc target => (Routine.inc (m.readOperand target)).flagWrites m.regs.flags
  | .dec target => (Routine.dec (m.readOperand target)).flagWrites m.regs.flags
  | .addHl pair => (Routine.addWords m.regs.hl (m.regs.getPair pair)).flagWrites m.regs.flags
  | .addSp offset | .loadHlSp offset =>
    (Routine.addOffset m.regs.sp offset).flagWrites m.regs.flags
  | .rlca => ShiftOp.rlc.accumulatorWrites m.regs.flags m.regs.a
  | .rrca => ShiftOp.rrc.accumulatorWrites m.regs.flags m.regs.a
  | .rla => ShiftOp.rl.accumulatorWrites m.regs.flags m.regs.a
  | .rra => ShiftOp.rr.accumulatorWrites m.regs.flags m.regs.a
  | .daa => (Routine.daa m.regs.a).flagWrites m.regs.flags
  | .cpl => (Routine.complement m.regs.a).flagWrites m.regs.flags
  | .scf => FlagWrite.all ⟨m.regs.flags.zero, false, false, true⟩
  | .ccf => FlagWrite.all ⟨m.regs.flags.zero, false, false, !m.regs.flags.carry⟩
  | .cb i => i.flagWrites m
  | .pop pair => if m.regs.sp < 0xFFFE then pair.flagWrites m.topWord else []
  | .loadPair pair nn => pair.flagWrites nn
  | .incPair pair => pair.flagWrites (m.regs.getPair pair + 1)
  | .decPair pair => pair.flagWrites (m.regs.getPair pair - 1)
  | _ => []

theorem Machine.flags_writeOperand (m : Machine) (o : Operand) (v : UInt8) :
    (m.writeOperand o v).regs.flags = m.regs.flags := by
  cases o with
  | reg r => cases r <;> rfl
  | atHl => rfl

theorem Machine.flags_setOperand (m : Machine) (o : Operand) (r : UInt8 × Flags) :
    (m.setOperand o r).regs.flags = r.2 :=
  flags_writeOperand ..

theorem Machine.flags_movePointer (m : Machine) (p : Pointer) :
    (m.movePointer p).regs.flags = m.regs.flags := by
  cases p <;> rfl

theorem CbInstr.flags_exec (m : Machine) (i : CbInstr) :
    (i.exec m).regs.flags = (i.flagWrites m).foldl onFlags m.regs.flags := by
  cases i with
  | shift op target => exact Machine.flags_setOperand ..
  | test bit target =>
    exact (Routine.testBit (.ofNat bit) (m.readOperand target)).flags_eq m.regs.flags
  | reset bit target | set bit target => exact Machine.flags_writeOperand ..

namespace Instr

theorem completes_pop_iff (r : Registers) (pair : Reg16) :
    (Instr.pop pair).verdict r = .completes ↔ r.sp < 0xFFFE := by
  show Verdict.ofPop r.sp = .completes ↔ _
  rw [UInt16.lt_iff_toNat_lt]
  unfold Verdict.ofPop
  split
  · rename_i hlt
    exact iff_of_true rfl hlt
  · rename_i hge
    exact iff_of_false nofun hge

theorem flags_exec (m : Machine) (i : Instr) (h : i.verdict m.regs = .completes) :
    (i.exec m).regs.flags = (i.flagWrites m).foldl onFlags m.regs.flags := by
  cases i with
  | load target source => exact m.flags_writeOperand ..
  | loadImm target n => exact m.flags_writeOperand ..
  | inc target => exact m.flags_setOperand ..
  | dec target => exact m.flags_setOperand ..
  | loadFrom p | storeTo p => exact Machine.flags_movePointer ..
  | loadPair pair nn => exact pair.flags_setPair ..
  | incPair pair | decPair pair => exact pair.flags_setPair ..
  | pop pair =>
    have hw : (Instr.pop pair).flagWrites m = pair.flagWrites m.topWord :=
      if_pos ((completes_pop_iff m.regs pair).mp h)
    rw [hw]
    exact pair.flags_setPair ..
  | jpIf cc | jrIf cc | callIf cc | retIf cc =>
    rw [exec]
    split <;> rfl
  | cb i => exact i.flags_exec m
  | _ => rfl

/-- An instruction that does not complete makes no writes. -/
theorem flagWrites_of_not_completes (m : Machine) (i : Instr)
    (h : i.verdict m.regs ≠ .completes) : i.flagWrites m = [] := by
  cases i with
  | pop pair => exact if_neg (mt (completes_pop_iff m.regs pair).mpr h)
  | halt | stop | illegal | jr | jrIf | push | call | rst | callIf | ret | reti | retIf => rfl
  | _ => exact absurd rfl h

/-- The writes of an instruction do not depend on where it lies. -/
theorem flagWrites_pc (m : Machine) (i : Instr) (pc : UInt16) :
    i.flagWrites { m with regs := { m.regs with pc := pc } } = i.flagWrites m := by
  cases i with
  | cb i => cases i <;> rfl
  | _ => rfl

end Instr

end Lr35902
