import Lr35902.Proofs.Outcome

/-!
# Hazards

What may keep an instruction from completing. `verdict_eq` reduces the verdict on an instruction
to its hazard, and `reason?_verdict` says for each hazard when it strikes. The hazard is a matter of
the opcode and the flags: the opcodes of each kind are listed, and the lists are checked against the
decoder opcode by opcode.
-/

namespace Lr35902

inductive Hazard where
  | none
  | undefined (opcode : UInt8)
  | halt
  | stop
  /-- The target of a relative jump may lie outside memory. -/
  | jump (offset : UInt8)
  /-- A word goes on the stack. -/
  | push
  /-- A word comes off the stack. -/
  | pop
  deriving DecidableEq, Repr

/-- Whether a relative jump leaves the address space. -/
def Word.OutOfReach (pc : UInt16) (offset : UInt8) : Prop :=
  (pc.toNat : Int) + signed offset < 0 ∨ 0xFFFF < (pc.toNat : Int) + signed offset

instance (pc : UInt16) (offset : UInt8) : Decidable (Word.OutOfReach pc offset) :=
  inferInstanceAs (Decidable (_ ∨ _))

theorem Word.addOffset?_eq (w : UInt16) (b : UInt8) :
    addOffset? w b = if OutOfReach w b then none else some (addOffset w b) := by
  unfold addOffset?
  by_cases h : OutOfReach w b
  · rw [if_pos h]
    unfold OutOfReach at h
    exact if_neg (by omega)
  · rw [if_neg h]
    unfold OutOfReach at h
    exact if_pos (by omega)

namespace Verdict

def reason? : Verdict → Option HaltReason
  | .completes => none
  | .halts reason => some reason
  | .fails fault => some fault.reason

theorem reason?_ofRelativeJump (pc : UInt16) (offset : UInt8) :
    (ofRelativeJump pc offset).reason? =
      if Word.OutOfReach pc offset then some .pcOverflow else none := by
  unfold ofRelativeJump
  rw [Word.addOffset?_eq]
  by_cases h : Word.OutOfReach pc offset
  · rw [if_pos h, if_pos h]
    rfl
  · rw [if_neg h, if_neg h]
    rfl

theorem reason?_ofPush (sp : UInt16) :
    (ofPush sp).reason? = if sp.toNat < 2 then some .stackOverflow else none := by
  unfold ofPush
  split <;> rfl

theorem reason?_ofPop (sp : UInt16) :
    (ofPop sp).reason? = if 0xFFFE ≤ sp.toNat then some .stackUnderflow else none := by
  unfold ofPop
  by_cases h : sp.toNat < 0xFFFE
  · rw [if_pos h, if_neg (Nat.not_le.mpr h)]
    rfl
  · rw [if_neg h, if_pos (Nat.not_lt.mp h)]
    rfl

end Verdict

namespace Hazard

def verdict (r : Registers) : Hazard → Verdict
  | .none => .completes
  | .undefined opcode => .fails (.unknownOpcode opcode (r.pc - 1) false)
  | .halt => .halts .haltInstruction
  | .stop => .halts .stopInstruction
  | .jump offset => .ofRelativeJump r.pc offset
  | .push => .ofPush r.sp
  | .pop => .ofPop r.sp

/-- Why a hazard halts the processor, if it does. -/
def reason? (r : Registers) : Hazard → Option HaltReason
  | .none => Option.none
  | .undefined _ => some .unknownOpcode
  | .halt => some .haltInstruction
  | .stop => some .stopInstruction
  | .jump offset => if Word.OutOfReach r.pc offset then some .pcOverflow else Option.none
  | .push => if r.sp.toNat < 2 then some .stackOverflow else Option.none
  | .pop => if 0xFFFE ≤ r.sp.toNat then some .stackUnderflow else Option.none

theorem reason?_verdict (r : Registers) (z : Hazard) : (z.verdict r).reason? = z.reason? r := by
  cases z with
  | jump offset => exact Verdict.reason?_ofRelativeJump ..
  | push => exact Verdict.reason?_ofPush ..
  | pop => exact Verdict.reason?_ofPop ..
  | _ => rfl

end Hazard

namespace Instr

def condition? : Instr → Option Condition
  | .jrIf cc _ | .jpIf cc _ | .callIf cc _ | .retIf cc => some cc
  | _ => none

/-- Whether an instruction does what it is for. -/
def taken (f : Flags) (i : Instr) : Bool :=
  match i.condition? with
  | some cc => cc.holds f
  | none => true

/-- The hazard of an instruction that is taken. -/
def danger : Instr → Hazard
  | .illegal opcode => .undefined opcode
  | .halt => .halt
  | .stop => .stop
  | .jr offset | .jrIf _ offset => .jump offset
  | .push _ | .call _ | .callIf .. | .rst _ => .push
  | .pop _ | .ret | .retIf _ | .reti => .pop
  | _ => .none

def hazard (f : Flags) (i : Instr) : Hazard := if i.taken f then i.danger else .none

theorem verdict_eq (r : Registers) (i : Instr) : i.verdict r = (i.hazard r.flags).verdict r := by
  unfold hazard
  rw [apply_ite (Hazard.verdict r)]
  cases i with
  | jpIf cc nn => exact (ite_self _).symm
  | _ => rfl

theorem reason?_verdict (r : Registers) (i : Instr) :
    (i.verdict r).reason? = (i.hazard r.flags).reason? r := by
  rw [verdict_eq, Hazard.reason?_verdict]

theorem eq_illegal_of_hazard {f : Flags} {i : Instr} {op : UInt8}
    (h : i.hazard f = .undefined op) : i = .illegal op := by
  unfold hazard at h
  split at h
  · cases i <;> cases h
    rfl
  · cases h

/-- An opcode is reported only by the instruction that is none. -/
theorem eq_illegal_of_verdict {r : Registers} {i : Instr} {op : UInt8} {a : UInt16} {p : Bool}
    (h : i.verdict r = .fails (.unknownOpcode op a p)) :
    i = .illegal op ∧ a = r.pc - 1 ∧ p = false := by
  rw [verdict_eq] at h
  generalize hz : i.hazard r.flags = z at h
  cases z with
  | undefined op' =>
    cases h
    exact ⟨eq_illegal_of_hazard hz, rfl, rfl⟩
  | none | halt | stop => cases h
  | jump offset =>
    simp only [Hazard.verdict, Verdict.ofRelativeJump] at h
    split at h <;> cases h
  | push =>
    simp only [Hazard.verdict, Verdict.ofPush] at h
    split at h <;> cases h
  | pop =>
    simp only [Hazard.verdict, Verdict.ofPop] at h
    split at h <;> cases h

end Instr

theorem Condition.holds_ofBits (f : Flags) (bits : Nat) :
    (ofBits bits).holds f = ((if bits.testBit 1 then f.carry else f.zero) == bits.testBit 0) := by
  have h₀ : bits.testBit 0 = (bits % 4).testBit 0 := by simp [Nat.testBit_mod_two_pow bits 2 0]
  have h₁ : bits.testBit 1 = (bits % 4).testBit 1 := by simp [Nat.testBit_mod_two_pow bits 2 1]
  have hlt : bits % 4 < 4 := Nat.mod_lt _ (by decide)
  unfold ofBits
  rw [h₀, h₁]
  generalize bits % 4 = k at hlt
  obtain ⟨z, n, h, c⟩ := f
  match k, hlt with
  | 0, _ | 1, _ => cases z <;> rfl
  | 2, _ | 3, _ => cases c <;> rfl

namespace Opcode

/-- The opcodes of `JR`. -/
def relativeJumps : List Nat := [0x18, 0x20, 0x28, 0x30, 0x38]

/-- The opcodes of `PUSH`, `CALL` and `RST`. -/
def pushing : List Nat :=
  [0xC5, 0xD5, 0xE5, 0xF5, 0xCD, 0xC4, 0xCC, 0xD4, 0xDC,
    0xC7, 0xCF, 0xD7, 0xDF, 0xE7, 0xEF, 0xF7, 0xFF]

/-- The opcodes of `POP`, `RET` and `RETI`. -/
def popping : List Nat := [0xC1, 0xD1, 0xE1, 0xF1, 0xC9, 0xD9, 0xC0, 0xC8, 0xD0, 0xD8]

/-- The opcodes of the jumps, calls and returns that depend on a flag. -/
def conditional : List Nat :=
  [0x20, 0x28, 0x30, 0x38, 0xC0, 0xC8, 0xD0, 0xD8, 0xC2, 0xCA, 0xD2, 0xDA, 0xC4, 0xCC, 0xD4, 0xDC]

/-- Whether the flags let an instruction do what it is for. Bit 4 of a conditional one says which
flag counts, zero or carry, and bit 3 whether it has to be set. -/
def taken (f : Flags) (op : UInt8) : Bool :=
  if op.toNat ∈ conditional then
    (if op.toNat.testBit 4 then f.carry else f.zero) == op.toNat.testBit 3
  else true

end Opcode

namespace Instr

theorem danger_withOperands (n : UInt8) (nn : UInt16) (i : Instr) :
    (i.withOperands n nn).danger = match i.danger with | .jump _ => .jump n | z => z := by
  cases i <;> rfl

theorem condition?_withOperands (n : UInt8) (nn : UInt16) (i : Instr) :
    (i.withOperands n nn).condition? = i.condition? := by
  cases i <;> rfl

theorem danger_decode (op n : UInt8) (nn : UInt16) :
    (decode op n nn).danger =
      if Opcode.isUndefined op then .undefined op
      else if op = 0x76 then .halt
      else if op = 0x10 then .stop
      else if op.toNat ∈ Opcode.relativeJumps then .jump n
      else if op.toNat ∈ Opcode.pushing then .push
      else if op.toNat ∈ Opcode.popping then .pop
      else .none := by
  have all : ∀ op, (decode op 0 0).danger =
      if Opcode.isUndefined op then .undefined op
      else if op = 0x76 then .halt
      else if op = 0x10 then .stop
      else if op.toNat ∈ Opcode.relativeJumps then .jump 0
      else if op.toNat ∈ Opcode.pushing then .push
      else if op.toNat ∈ Opcode.popping then .pop
      else .none := by decide +kernel
  rw [decode_eq_withOperands, danger_withOperands, all]
  repeat' split
  all_goals first | rfl | simp_all

theorem taken_decode (f : Flags) (op n : UInt8) (nn : UInt16) :
    (decode op n nn).taken f = Opcode.taken f op := by
  have all : ∀ op : UInt8, (decode op 0 0).condition? =
      if op.toNat ∈ Opcode.conditional then some (.ofBits (op.toNat / 8)) else none := by
    decide +kernel
  unfold taken Opcode.taken
  rw [decode_eq_withOperands, condition?_withOperands, all]
  by_cases h : op.toNat ∈ Opcode.conditional
  · rw [if_pos h, if_pos h, Nat.testBit_add op.toNat 1 3, ← Nat.zero_add 3,
      Nat.testBit_add op.toNat 0 3]
    exact Condition.holds_ofBits f (op.toNat / 8)
  · rw [if_neg h, if_neg h]

theorem hazard_decode (f : Flags) (op n : UInt8) (nn : UInt16) :
    (decode op n nn).hazard f = if Opcode.taken f op then (decode op n nn).danger else .none := by
  unfold hazard
  rw [taken_decode]

end Instr

end Lr35902
