import Lr35902.Proofs.Handlers

/-!
# The instruction cycle

What one step makes of a running processor. The instruction at the program counter is consumed as
a whole, or as far as memory goes; then `cause?` says whether the processor halts. If it halts,
nothing but the program counter, the opcode register and the status changes (`step_of_cause`);
otherwise the instruction has its effect and is counted (`step_of_no_cause`).
-/

namespace Lr35902

theorem Memory.readOrZero_toNat (m : Memory) (a : UInt16) : m.readOrZero a.toNat = m.read a :=
  dif_pos a.toNat_lt

/-- Reading the operands behind an opcode wraps round or reads zeros; neither shows as long as the
instruction lies within memory. -/
theorem Memory.decode_eq_instrAt {m : Memory} {a : UInt16}
    (h : a.toNat + Opcode.length (m.read a) ≤ 65536) :
    Instr.decode (m.read a) (m.read (a + 1)) (m.readWord (a + 1)) = m.instrAt a.toNat := by
  have read_add {k : Nat} {w : UInt16} (hw : w.toNat = k) (hk : a.toNat + k < 65536) :
      m.read (a + w) = m.readOrZero (a.toNat + k) := by
    rw [← readOrZero_toNat, UInt16.toNat_add, hw, Nat.mod_eq_of_lt hk]
  unfold instrAt
  rw [readOrZero_toNat]
  apply Instr.decode_congr
  · intro h₁
    exact read_add rfl (by omega)
  · intro h₂
    rw [readWord_eq, UInt16.add_assoc, read_add (k := 2) rfl (by omega),
      read_add (k := 1) rfl (by omega)]

theorem Memory.length_instrAt (m : Memory) (a : UInt16) :
    (m.instrAt a.toNat).length = Opcode.length (m.read a) := by
  unfold instrAt
  rw [Instr.length_decode, readOrZero_toNat]

theorem Memory.instrAt_congr {m m' : Memory} {a : UInt16}
    (h : ∀ b : UInt16, a.toNat ≤ b.toNat → b.toNat < a.toNat + Opcode.length (m.read a) →
      m'.read b = m.read b) : m'.instrAt a.toNat = m.instrAt a.toNat := by
  have same {k : Nat} (hk : k < Opcode.length (m.read a)) :
      m'.readOrZero (a.toNat + k) = m.readOrZero (a.toNat + k) := by
    by_cases hlt : a.toNat + k < 65536
    · have hb : (UInt16.ofNat (a.toNat + k)).toNat = a.toNat + k := by
        rw [UInt16.toNat_ofNat', Nat.mod_eq_of_lt hlt]
      rw [← hb, readOrZero_toNat, readOrZero_toNat]
      exact h _ (by omega) (by omega)
    · unfold readOrZero
      rw [dif_neg hlt, dif_neg hlt]
  have hop : m'.readOrZero a.toNat = m.readOrZero a.toNat := same (k := 0) (Opcode.length_pos _)
  unfold instrAt
  rw [hop, readOrZero_toNat]
  apply Instr.decode_congr
  · exact same
  · intro h₂
    rw [same (k := 1) (by omega), same (k := 2) h₂]

namespace Cpu

/-- The instruction at the program counter. -/
def nextInstr (c : Cpu) : Instr := c.mem.instrAt c.regs.pc.toNat

/-- The address behind the instruction, or the last one if there is none. -/
def nextPc (c : Cpu) : UInt16 := UInt16.ofNat (min (c.regs.pc.toNat + c.nextInstr.length) 0xFFFF)

/-- The processor that has consumed the instruction and not yet done anything about it. -/
def consumed (c : Cpu) : Cpu :=
  { c with
    regs := { c.regs with pc := c.nextPc }
    opcode := c.mem.read c.regs.pc
    opcodeAddress := c.regs.pc
    prefixed := false }

/-- The opcode register after an instruction of the second page holds that page's opcode. -/
def latched (c : Cpu) : Cpu :=
  if c.nextInstr.isPrefixed then
    { c.consumed with
      opcode := c.mem.read (c.regs.pc + 1)
      opcodeAddress := c.regs.pc + 1
      prefixed := true }
  else c.consumed

/-- Why the next step halts the processor, if it does. -/
def cause? (c : Cpu) : Option HaltReason :=
  if c.regs.pc.toNat + c.nextInstr.length ≤ 0xFFFF then
    (c.nextInstr.verdict c.consumed.regs).reason?
  else some .pcOverflow

variable {c : Cpu}

theorem length_nextInstr (c : Cpu) :
    c.nextInstr.length = Opcode.length (c.mem.read c.regs.pc) :=
  c.mem.length_instrAt c.regs.pc

theorem isPrefixed_nextInstr (c : Cpu) :
    c.nextInstr.isPrefixed = (c.mem.read c.regs.pc == 0xCB) := by
  unfold nextInstr Memory.instrAt
  rw [Instr.isPrefixed_decode, Memory.readOrZero_toNat]

theorem toNat_nextPc (c : Cpu) :
    c.nextPc.toNat = min (c.regs.pc.toNat + c.nextInstr.length) 0xFFFF := by
  unfold nextPc
  rw [UInt16.toNat_ofNat', Nat.mod_eq_of_lt]
  omega

@[simp] theorem toMachine_latched (c : Cpu) : c.latched.toMachine = c.consumed.toMachine := by
  unfold latched
  split <;> rfl

@[simp] theorem executed_latched (c : Cpu) : c.latched.executed = c.executed := by
  unfold latched
  split <;> rfl

@[simp] theorem status_latched (c : Cpu) : c.latched.status = c.status := by
  unfold latched
  split <;> rfl

theorem le_of_no_cause (hc : c.cause? = none) :
    c.regs.pc.toNat + c.nextInstr.length ≤ 0xFFFF := by
  rcases Nat.lt_or_ge 0xFFFF (c.regs.pc.toNat + c.nextInstr.length) with hgt | hle
  · unfold cause? at hc
    rw [if_neg (Nat.not_le.mpr hgt)] at hc
    cases hc
  · exact hle

theorem lt_of_no_cause (hc : c.cause? = none) : c.regs.pc.toNat < 0xFFFF := by
  have := c.nextInstr.length_pos
  have := le_of_no_cause hc
  omega

theorem cause?_of_last (h : c.regs.pc.toNat = 0xFFFF) : c.cause? = some .pcOverflow := by
  have := c.nextInstr.length_pos
  exact if_neg (by omega)

theorem halt_of_running (h : c.isHalted = false) (reason : HaltReason) :
    c.halt reason = { c with status := .halted (c.capture (some reason)) } := by
  unfold halt
  rw [h]
  rfl

@[simp] theorem isHalted_halt (c : Cpu) (reason : HaltReason) :
    (c.halt reason).isHalted = true := by
  unfold halt
  split
  · assumption
  · rfl

theorem fetchLogged_of_halted (h : c.isHalted = true) : c.fetchLogged = ⟨c, []⟩ := if_pos h

theorem decodeLogged_of_halted (h : c.isHalted = true) : c.decodeLogged = ⟨c, []⟩ := if_pos h

theorem stepLogged_of_halted (h : c.isHalted = true) : c.stepLogged = ⟨c, []⟩ := by
  rw [stepLogged, fetchLogged_of_halted h, Logged.andThen, decodeLogged_of_halted h]
  rfl

@[simp] theorem status_behind (c : Cpu) (i : Instr) : (c.behind i).status = c.status := by
  cases i <;> rfl

@[simp] theorem executed_behind (c : Cpu) (i : Instr) : (c.behind i).executed = c.executed := by
  cases i <;> rfl

theorem attempt_of_completes {i : Instr} (h : i.verdict c.regs = .completes) :
    c.attempt i = ({ c with toMachine := i.exec c.toMachine }, .completes) := by
  unfold attempt
  rw [h]

theorem attempt_of_not_completes {i : Instr} (h : i.verdict c.regs ≠ .completes) :
    c.attempt i = (c, i.verdict c.regs) := by
  unfold attempt
  generalize i.verdict c.regs = v at h
  cases v with
  | completes => exact absurd rfl h
  | _ => rfl

/-- An instruction does not halt the processor by itself; that comes of its verdict. -/
theorem status_attempt (c : Cpu) (i : Instr) : (c.attempt i).1.status = c.status := by
  by_cases h : i.verdict c.regs = .completes
  · rw [attempt_of_completes h]
  · rw [attempt_of_not_completes h]

theorem status_dispatch (c : Cpu) (opcode : UInt8) :
    (c.dispatch opcode).1.status = c.status := by
  unfold dispatch carry
  split
  · rw [status_attempt, status_behind]
  · rfl

theorem isHalted_congr {c' : Cpu} (h : c'.status = c.status) : c'.isHalted = c.isHalted := by
  unfold isHalted haltRecord?
  rw [h]

/-- The instruction in the opcode register is executed and counted, or the processor halts. -/
theorem decodeLogged_of_running (h : c.isHalted = false) :
    c.decodeLogged =
      let entered := .execute c.opcodeAddress c.opcode c.regs.a c.regs.flags.toByte
      match c.dispatch c.opcode with
      | (c', .completes) => ⟨{ c' with executed := c'.executed + 1 }, [entered]⟩
      | (c', .halts reason) =>
        ⟨c'.halt reason, [entered, .haltedByInstruction reason c'.regs.pc]⟩
      | (c', .fails fault) => ⟨c'.fail fault, [entered, .haltedByFault fault]⟩ := by
  have hsame : (c.dispatch c.opcode).1.isHalted = false :=
    (isHalted_congr (status_dispatch c c.opcode)).trans h
  have hinvoke : c.invokeLogged .base c.opcode =
      (c.dispatch c.opcode).2.settle (c.dispatch c.opcode).1 := invokeLogged_eq ..
  unfold decodeLogged
  rw [h, hinvoke]
  generalize c.dispatch c.opcode = result at hsame
  obtain ⟨c', v⟩ := result
  replace hsame : c'.isHalted = false := hsame
  cases v with
  | completes =>
    exact congrArg (Logged.mk · _) (if_neg (by rw [hsame]; exact Bool.false_ne_true))
  | halts reason => exact congrArg (Logged.mk · _) (if_pos (isHalted_halt c' reason))
  | fails fault => rfl

/-- The processor that has fetched an opcode and not yet its operands. -/
def fetched (c : Cpu) : Cpu :=
  { c with
    regs := { c.regs with pc := c.regs.pc + 1 }
    opcode := c.mem.read c.regs.pc
    opcodeAddress := c.regs.pc
    prefixed := false }

theorem fetchLogged_of_lt (h : c.isHalted = false) (hpc : c.regs.pc.toNat < 0xFFFF) :
    c.fetchLogged = ⟨c.fetched, []⟩ := by
  unfold fetchLogged
  simp only [h, Word.succ?_of_lt hpc, ↓reduceIte, Bool.false_eq_true]
  rfl

/-- At the last address there is no room for the program counter to move on. -/
theorem fetchLogged_of_last (h : c.isHalted = false) (hpc : c.regs.pc.toNat = 0xFFFF) :
    c.fetchLogged = ⟨c.consumed.halt .pcOverflow, [.haltedByFault (.pcOverflow 0xFFFF)]⟩ := by
  have hlast : c.regs.pc = 0xFFFF := UInt16.toNat_inj.mp hpc
  have hnext : c.nextPc = c.regs.pc := by
    have := c.nextInstr.length_pos
    apply UInt16.toNat_inj.mp
    rw [toNat_nextPc]
    omega
  have hnone : Word.succ? 0xFFFF = none := rfl
  unfold fetchLogged consumed
  rw [hnext]
  simp only [h, hlast, hnone, ↓reduceIte, Bool.false_eq_true]
  rw [← hlast]
  rfl

/-! ### Consuming the operands -/

theorem next_fetched (hpc : c.regs.pc.toNat < 0xFFFF) :
    c.fetched.regs.pc.toNat + (c.nextInstr.length - 1) = c.regs.pc.toNat + c.nextInstr.length := by
  have := c.nextInstr.length_pos
  have : c.fetched.regs.pc.toNat = c.regs.pc.toNat + 1 := by
    show (c.regs.pc + 1).toNat = _
    rw [UInt16.toNat_add, UInt16.toNat_one, Nat.mod_eq_of_lt (by omega)]
  omega

theorem behind_fetched (h : c.regs.pc.toNat + c.nextInstr.length ≤ 0xFFFF) :
    c.fetched.behind c.nextInstr = c.latched := by
  have := c.nextInstr.length_pos
  have hpc : UInt16.ofNat (c.fetched.regs.pc.toNat + (c.nextInstr.length - 1)) = c.nextPc := by
    rw [next_fetched (by omega)]
    unfold nextPc
    rw [Nat.min_eq_left h]
  unfold behind latched
  rw [hpc]
  generalize c.nextInstr = i
  cases i <;> rfl

theorem dispatch_of_le (h : c.regs.pc.toNat + c.nextInstr.length ≤ 0xFFFF) :
    c.fetched.dispatch c.fetched.opcode = c.latched.attempt c.nextInstr := by
  have hpos := c.nextInstr.length_pos
  have hi : Instr.decode c.fetched.opcode (c.fetched.mem.read c.fetched.regs.pc)
      (c.fetched.mem.readWord c.fetched.regs.pc) = c.nextInstr :=
    Memory.decode_eq_instrAt (by rw [← length_nextInstr]; omega)
  unfold dispatch carry
  rw [hi, next_fetched (by omega), if_pos (by omega), behind_fetched h]

theorem dispatch_of_gt (hlt : c.regs.pc.toNat < 0xFFFF)
    (h : 0xFFFF < c.regs.pc.toNat + c.nextInstr.length) :
    c.fetched.dispatch c.fetched.opcode = (c.consumed, .fails (.pcOverflow 0xFFFF)) := by
  have hlen : (Instr.decode c.fetched.opcode (c.fetched.mem.read c.fetched.regs.pc)
      (c.fetched.mem.readWord c.fetched.regs.pc)).length = c.nextInstr.length := by
    rw [Instr.length_decode, length_nextInstr]
    rfl
  have hpc : c.nextPc = 0xFFFF := by
    unfold nextPc
    rw [Nat.min_eq_right (by omega)]
    rfl
  unfold dispatch carry consumed
  rw [hlen, next_fetched hlt, if_neg (by omega), hpc]
  rfl

/-! ### The whole step -/

theorem fail_consumed {fault : Fault} (h : c.nextInstr.verdict c.consumed.regs = .fails fault)
    (hle : c.regs.pc.toNat + c.nextInstr.length ≤ 0xFFFF) :
    c.consumed.fail fault = c.consumed.halt fault.reason := by
  cases fault with
  | unknownOpcode op a p =>
    obtain ⟨hi, rfl, rfl⟩ := Instr.eq_illegal_of_verdict h
    have hop : op = c.mem.read c.regs.pc := by
      rw [← Memory.readOrZero_toNat]
      exact Instr.eq_of_decode_eq_illegal hi
    have hpc : c.consumed.regs.pc - 1 = c.regs.pc := by
      have hlen : c.nextInstr.length = 1 := by rw [hi]; rfl
      rw [UInt16.sub_eq_iff_eq_add]
      apply UInt16.toNat_inj.mp
      show c.nextPc.toNat = _
      rw [toNat_nextPc, hlen, UInt16.toNat_add, UInt16.toNat_one]
      omega
    unfold fail
    simp only [hop, hpc]
    rfl
  | _ => rfl

/-- An instruction of the second page always completes. -/
theorem latched_of_verdict (h : c.nextInstr.verdict c.consumed.regs ≠ .completes) :
    c.latched = c.consumed := by
  unfold latched
  rw [if_neg]
  intro hi
  apply h
  generalize c.nextInstr = i at hi
  cases i <;> first | rfl | cases hi

theorem step_of_lt (h : c.isHalted = false) (hpc : c.regs.pc.toNat < 0xFFFF) :
    c.step = c.fetched.decodeLogged.value := by
  rw [step, stepLogged, Logged.value_andThen, fetchLogged_of_lt h hpc]

theorem dispatch_of_no_cause (hc : c.cause? = none) :
    c.fetched.dispatch c.fetched.opcode =
      ({ c.latched with toMachine := c.nextInstr.exec c.consumed.toMachine }, .completes) := by
  unfold cause? at hc
  split at hc
  · rename_i hle
    have hv : c.nextInstr.verdict c.latched.regs = .completes := by
      rw [toMachine_latched]
      generalize c.nextInstr.verdict c.consumed.regs = v at hc
      cases v <;> first | rfl | cases hc
    rw [dispatch_of_le hle, attempt_of_completes hv, toMachine_latched]
  · cases hc

theorem dispatch_of_cause {reason : HaltReason} (hc : c.cause? = some reason)
    (hpc : c.regs.pc.toNat < 0xFFFF) :
    ∃ v, c.fetched.dispatch c.fetched.opcode = (c.consumed, v) ∧ v.reason? = some reason ∧
      ∀ fault, v = .fails fault → c.consumed.fail fault = c.consumed.halt fault.reason := by
  unfold cause? at hc
  split at hc
  · rename_i hle
    have hv : c.nextInstr.verdict c.consumed.regs ≠ .completes := by
      intro hv
      rw [hv] at hc
      cases hc
    refine ⟨c.nextInstr.verdict c.consumed.regs, ?_, hc, fun _ hr => fail_consumed hr hle⟩
    rw [dispatch_of_le hle, latched_of_verdict hv, attempt_of_not_completes hv]
  · rename_i hgt
    cases hc
    refine ⟨_, dispatch_of_gt hpc (by omega), rfl, ?_⟩
    intro fault hr
    cases hr
    rfl

/-- A step that finds no cause to halt carries out the instruction and counts it. -/
theorem step_of_no_cause (h : c.isHalted = false) (hc : c.cause? = none) :
    c.step = { c.latched with
      toMachine := c.nextInstr.exec c.consumed.toMachine
      executed := c.executed + 1 } := by
  rw [step_of_lt h (lt_of_no_cause hc), decodeLogged_of_running (c := c.fetched) h,
    dispatch_of_no_cause hc]
  simp only [executed_latched]

/-- A step that finds a cause to halt stops behind the instruction. -/
theorem step_of_cause {reason : HaltReason} (h : c.isHalted = false)
    (hc : c.cause? = some reason) : c.step = c.consumed.halt reason := by
  rcases Nat.lt_or_ge c.regs.pc.toNat 0xFFFF with hpc | hpc
  · obtain ⟨v, hdispatch, hreason, hfail⟩ := dispatch_of_cause hc hpc
    rw [step_of_lt h hpc, decodeLogged_of_running (c := c.fetched) h, hdispatch]
    cases v with
    | completes => cases hreason
    | halts r =>
      cases hreason
      rfl
    | fails fault =>
      cases hreason
      exact hfail fault rfl
  · have := c.regs.pc.toNat_lt
    have hlast : c.regs.pc.toNat = 0xFFFF := by omega
    cases hc.symm.trans (cause?_of_last hlast)
    rw [step, stepLogged, Logged.value_andThen, fetchLogged_of_last h hlast,
      decodeLogged_of_halted (isHalted_halt ..)]

end Cpu

end Lr35902
