import Lr35902.Machine

/-!
# Effects

What each operation that can fail comes to as a whole. All of them check before they write, so the
one that fails leaves the machine as it was; only of a word operand may the first byte have been
consumed when the second is missing (`on_operandWord`).
-/

namespace Lr35902

namespace Word

variable {w : UInt16}

theorem toNat_succ (h : w.toNat < 0xFFFF) : (w + 1).toNat = w.toNat + 1 := by
  rw [UInt16.toNat_add, UInt16.toNat_one, Nat.mod_eq_of_lt (by omega)]

theorem succ?_of_lt (h : w.toNat < 0xFFFF) : succ? w = some (w + 1) := by
  refine if_neg ?_
  rintro rfl
  exact absurd h (by decide)

theorem pred?_of_pos (h : 0 < w.toNat) : pred? w = some (w - 1) := by
  refine if_neg ?_
  rintro rfl
  exact absurd h (by decide)

end Word

theorem toNat_below {sp : UInt16} (h : 2 ≤ sp.toNat) :
    (sp - 1).toNat = sp.toNat - 1 ∧ (sp - 2).toNat = sp.toNat - 2 := by
  have h₁ : 1 ≤ sp := UInt16.le_iff_toNat_le.mpr (Nat.le_of_succ_le h)
  have h₂ : 2 ≤ sp := UInt16.le_iff_toNat_le.mpr h
  exact ⟨UInt16.toNat_sub_of_le _ _ h₁, UInt16.toNat_sub_of_le _ _ h₂⟩

theorem toNat_above {sp : UInt16} (h : sp.toNat < 0xFFFE) : (sp + 2).toNat = sp.toNat + 2 := by
  have hlt : sp.toNat + 2 < 65536 := Nat.lt_of_lt_of_le (Nat.add_lt_add_right h 2) (by decide)
  exact (UInt16.toNat_add sp 2).trans (Nat.mod_eq_of_lt hlt)

namespace Machine

/-- Pushes a word where there is room for it. -/
def pushWord (m : Machine) (w : UInt16) : Machine :=
  { m with
    mem := (m.mem.write (m.regs.sp - 1) (Word.high w)).write (m.regs.sp - 2) (Word.low w)
    regs := { m.regs with sp := m.regs.sp - 2 } }

/-- The word on top of the stack. -/
def topWord (m : Machine) : UInt16 := m.mem.readWord m.regs.sp

def dropWord (m : Machine) : Machine :=
  { m with regs := { m.regs with sp := m.regs.sp + 2 } }

variable {m m' : Machine}

namespace Effect

variable {α β : Type}

@[simp] theorem on_pure (a : α) (m : Machine) : (pure a : Effect α).on m = (.ok a, m) := rfl

@[simp] theorem on_get (m : Machine) : (get : Effect Machine).on m = (.ok m, m) := rfl

@[simp] theorem on_update (f : Machine → Machine) (m : Machine) :
    (update f).on m = (.ok (), f m) := rfl

@[simp] theorem on_orFault_some (fault : Fault) (a : α) (m : Machine) :
    (orFault fault (some a)).on m = (.ok a, m) := rfl

@[simp] theorem on_orFault_none (fault : Fault) (m : Machine) :
    (orFault fault none : Effect α).on m = (.error fault, m) := rfl

@[simp] theorem on_bind (x : Effect α) (f : α → Effect β) (m : Machine) :
    (x >>= f).on m =
      match x.on m with
      | (.ok a, m') => (f a).on m'
      | (.error fault, m') => (.error fault, m') := by
  show (match x.on m with | (r, m') => (ExceptT.bindCont f r).run m' : Except Fault β × Machine) = _
  generalize x.on m = r
  obtain ⟨_ | _, _⟩ := r <;> rfl

end Effect

open Effect

theorem on_operandByte (h : m.regs.pc.toNat < 0xFFFF) :
    operandByte.on m = (.ok (m.mem.read m.regs.pc), m.jump (m.regs.pc + 1)) := by
  simp only [operandByte, on_bind, on_get, Word.succ?_of_lt h, on_orFault_some, on_update, on_pure]

theorem on_operandByte_of_last (h : m.regs.pc = 0xFFFF) :
    operandByte.on m = (.error (.pcOverflow 0xFFFF), m) := by
  have hnone : Word.succ? 0xFFFF = none := rfl
  simp only [operandByte, on_bind, on_get, h, hnone, on_orFault_none]

/-- The bytes of a word operand make up the word that memory holds there. -/
theorem on_operandWord (h : m.regs.pc.toNat < 0xFFFE) :
    operandWord.on m = (.ok (m.mem.readWord m.regs.pc), m.jump (m.regs.pc + 2)) := by
  have hpc : (m.regs.pc + 1).toNat < 0xFFFF := by rw [Word.toNat_succ (by omega)]; omega
  have hnext : m.regs.pc + 1 + 1 = m.regs.pc + 2 := UInt16.add_assoc ..
  simp only [operandWord, on_bind, on_operandByte (m := m) (by omega),
    on_operandByte (m := m.jump (m.regs.pc + 1)) hpc, on_pure]
  simp only [jump, hnext]
  rfl

/-- If there is no room for a word operand, what there is of it has been consumed. -/
theorem on_operandWord_of_le (h : 0xFFFE ≤ m.regs.pc.toNat) :
    operandWord.on m = (.error (.pcOverflow 0xFFFF), m.jump 0xFFFF) := by
  rcases Nat.lt_or_ge m.regs.pc.toNat 0xFFFF with hlt | hge
  · have hpc : m.regs.pc + 1 = 0xFFFF := by
      apply UInt16.toNat_inj.mp
      rw [Word.toNat_succ hlt]
      exact Nat.le_antisymm hlt (Nat.succ_le_succ h)
    simp only [operandWord, on_bind, on_operandByte hlt, hpc,
      on_operandByte_of_last (m := m.jump 0xFFFF) rfl]
  · have hpc : m.regs.pc = 0xFFFF :=
      UInt16.toNat_inj.mp (Nat.le_antisymm (Nat.le_of_lt_succ m.regs.pc.toNat_lt) hge)
    have hjump : m.jump 0xFFFF = m := by
      rw [← hpc]
      rfl
    simp only [operandWord, on_bind, on_operandByte_of_last hpc, hjump]

/-! ### The stack -/

theorem on_push (h : 2 ≤ m.regs.sp.toNat) (w : UInt16) :
    (push w).on m = (.ok (), m.pushWord w) := by
  have hhigh : Word.pred? m.regs.sp = some (m.regs.sp - 1) := Word.pred?_of_pos (by omega)
  have hlow : Word.pred? (m.regs.sp - 1) = some (m.regs.sp - 2) := by
    have htwo : m.regs.sp - 1 - 1 = m.regs.sp - 2 := by grind
    rw [Word.pred?_of_pos (by rw [(toNat_below h).1]; omega), htwo]
  simp only [push, on_bind, on_get, hhigh, hlow, on_orFault_some, on_update]
  rfl

/-- A push without room changes nothing, also where there is room for one of the two bytes. -/
theorem on_push_of_lt (h : m.regs.sp.toNat < 2) (w : UInt16) :
    (push w).on m = (.error (.stackOverflow m.regs.sp), m) := by
  have hsp : m.regs.sp = 0 ∨ m.regs.sp = 1 := by
    rw [← UInt16.toNat_inj, ← UInt16.toNat_inj]
    show m.regs.sp.toNat = 0 ∨ m.regs.sp.toNat = 1
    omega
  rcases hsp with hsp | hsp
  · have hnone : Word.pred? 0 = none := rfl
    simp only [push, on_bind, on_get, hsp, hnone, on_orFault_none]
  · have hhigh : Word.pred? 1 = some 0 := rfl
    have hnone : Word.pred? 0 = none := rfl
    simp only [push, on_bind, on_get, hsp, hhigh, hnone, on_orFault_some, on_orFault_none]

theorem on_pop (h : m.regs.sp.toNat < 0xFFFE) : pop.on m = (.ok m.topWord, m.dropWord) := by
  have habove : Word.succ? m.regs.sp = some (m.regs.sp + 1) := Word.succ?_of_lt (by omega)
  have hnext : Word.succ? (m.regs.sp + 1) = some (m.regs.sp + 2) := by
    have htwo : m.regs.sp + 1 + 1 = m.regs.sp + 2 := UInt16.add_assoc ..
    rw [Word.succ?_of_lt (by rw [Word.toNat_succ (by omega)]; omega), htwo]
  simp only [pop, on_bind, on_get, habove, hnext, on_orFault_some, on_update, on_pure, topWord,
    Memory.readWord_eq]
  rfl

/-- A pop at the end of memory changes nothing, also where there is a first byte. -/
theorem on_pop_of_le (h : 0xFFFE ≤ m.regs.sp.toNat) :
    pop.on m = (.error (.stackUnderflow m.regs.sp), m) := by
  have hsp : m.regs.sp = 0xFFFE ∨ m.regs.sp = 0xFFFF := by
    have := m.regs.sp.toNat_lt
    rw [← UInt16.toNat_inj, ← UInt16.toNat_inj]
    show m.regs.sp.toNat = 0xFFFE ∨ m.regs.sp.toNat = 0xFFFF
    omega
  rcases hsp with hsp | hsp
  · have habove : Word.succ? 0xFFFE = some 0xFFFF := rfl
    have hnone : Word.succ? 0xFFFF = none := rfl
    simp only [pop, on_bind, on_get, hsp, habove, hnone, on_orFault_some, on_orFault_none]
  · have hnone : Word.succ? 0xFFFF = none := rfl
    simp only [pop, on_bind, on_get, hsp, hnone, on_orFault_none]

theorem on_jumpRelative (m : Machine) (offset : UInt8) :
    (jumpRelative offset).on m =
      match Word.addOffset? m.regs.pc offset with
      | some target => (.ok (), m.jump target)
      | none => (.error (.pcOverflow m.regs.pc), m) := by
  simp only [jumpRelative, on_bind, on_get]
  cases Word.addOffset? m.regs.pc offset <;> rfl

theorem on_call (h : 2 ≤ m.regs.sp.toNat) (target : UInt16) :
    (call target).on m = (.ok (), (m.pushWord m.regs.pc).jump target) := by
  simp only [call, on_bind, on_get, on_push h, on_update]

theorem on_call_of_lt (h : m.regs.sp.toNat < 2) (target : UInt16) :
    (call target).on m = (.error (.stackOverflow m.regs.sp), m) := by
  simp only [call, on_bind, on_get, on_push_of_lt h]

theorem on_ret (h : m.regs.sp.toNat < 0xFFFE) :
    ret.on m = (.ok (), m.dropWord.jump m.topWord) := by
  simp only [ret, on_bind, on_pop h, on_update]

theorem on_ret_of_le (h : 0xFFFE ≤ m.regs.sp.toNat) :
    ret.on m = (.error (.stackUnderflow m.regs.sp), m) := by
  simp only [ret, on_bind, on_pop_of_le h]

end Machine

end Lr35902
