import Lr35902.Proofs.Hazard

/-!
# Handlers

A handler reads operands, checks and writes one thing after the other, and whatever it has done when
it fails is not undone. Yet it does what the verdict and the effect of the whole instruction say
(`Handler.on_run`): one that does not complete has written nothing but the program counter. The
instruction is the one that disassembly shows, since the table has the right handler for each
opcode (`Handler.instr_baseTable`).
-/

namespace Lr35902

open Machine (operandByte operandWord whenHolds)
open Machine.Effect (update)

namespace Cpu

/-- What a handler hands back that has executed an instruction. -/
def settled (c : Cpu) (i : Instr) : Logged (Except Fault Unit × Cpu) :=
  (c.attempt i).2.settle (c.attempt i).1

/-- What a handler hands back that has consumed the operands and executed the instruction. -/
def carried (c : Cpu) (i : Instr) : Logged (Except Fault Unit × Cpu) :=
  (c.carry i).2.settle (c.carry i).1

variable {c : Cpu} {i : Instr}

theorem settled_of_completes (h : i.verdict c.regs = .completes) :
    c.settled i = ⟨(.ok (), { c with toMachine := i.exec c.toMachine }), []⟩ := by
  unfold settled attempt
  rw [h]
  rfl

theorem settled_of_fails {fault : Fault} (h : i.verdict c.regs = .fails fault) :
    c.settled i = ⟨(.error fault, c), []⟩ := by
  unfold settled attempt
  rw [h]
  rfl

theorem carried_of_lt (h : c.regs.pc.toNat + (i.length - 1) < 65536) :
    c.carried i = (c.behind i).settled i := by
  unfold carried carry
  rw [if_pos h]
  rfl

theorem carried_of_le (h : 65536 ≤ c.regs.pc.toNat + (i.length - 1)) :
    c.carried i = ⟨(.error (.pcOverflow 0xFFFF), { c with toMachine := c.jump 0xFFFF }), []⟩ := by
  unfold carried carry
  rw [if_neg (Nat.not_lt.mpr h)]
  rfl

theorem behind_eq (k : UInt16) (hk : i.length = k.toNat + 1) (hp : i.isPrefixed = false) :
    c.behind i = { c with toMachine := c.jump (c.regs.pc + k) } := by
  have hpc : UInt16.ofNat (c.regs.pc.toNat + (i.length - 1)) = c.regs.pc + k := by
    rw [hk, Nat.add_sub_cancel, UInt16.ofNat_add, UInt16.ofNat_toNat, UInt16.ofNat_toNat]
  unfold behind
  rw [hpc]
  cases i <;> first | rfl | cases hp

theorem carried_of_length_one (h : i.length = 1) : c.carried i = c.settled i := by
  have hp : i.isPrefixed = false := by cases i <;> first | rfl | cases h
  have hself : c.regs.pc + 0 = c.regs.pc := UInt16.add_zero _
  rw [carried_of_lt (by rw [h]; exact c.regs.pc.toNat_lt),
    behind_eq 0 h hp, hself]
  rfl

end Cpu

/-! ### Effects that carry out an instruction -/

/-- On this machine, the effect does what the instruction does, and nothing if that fails. -/
def Machine.Effect.Carries (e : Machine.Effect Unit) (i : Instr) (m : Machine) : Prop :=
  (i.verdict m.regs = .completes ∧ e.on m = (.ok (), i.exec m)) ∨
    ∃ fault, i.verdict m.regs = .fails fault ∧ e.on m = (.error fault, m)

namespace Machine.Effect

variable {m : Machine} {i : Instr}

theorem carries_push (pair : Reg16) : (pushPair pair).Carries (.push pair) m := by
  rcases Nat.lt_or_ge m.regs.sp.toNat 2 with h | h
  · exact .inr ⟨_, if_pos h, by simp only [pushPair, on_bind, on_get, on_push_of_lt h]⟩
  · exact .inl ⟨if_neg (Nat.not_lt.mpr h), by simp only [pushPair, on_bind, on_get, on_push h]; rfl⟩

theorem carries_pop (pair : Reg16) : (popPair pair).Carries (.pop pair) m := by
  rcases Nat.lt_or_ge m.regs.sp.toNat 0xFFFE with h | h
  · exact .inl ⟨if_pos h, by simp only [popPair, on_bind, on_pop h]; rfl⟩
  · exact .inr ⟨_, if_neg (Nat.not_lt.mpr h), by simp only [popPair, on_bind, on_pop_of_le h]⟩

theorem carries_jumpRelative (offset : UInt8) : (jumpRelative offset).Carries (.jr offset) m := by
  have he := on_jumpRelative m offset
  have hv : (Instr.jr offset).verdict m.regs = .ofRelativeJump m.regs.pc offset := rfl
  unfold Carries
  rw [he, hv, Verdict.ofRelativeJump, Word.addOffset?_eq]
  by_cases h : Word.OutOfReach m.regs.pc offset
  · rw [if_pos h]
    exact .inr ⟨_, rfl, rfl⟩
  · rw [if_neg h]
    exact .inl ⟨rfl, rfl⟩

theorem carries_jump (nn : UInt16) : (update (·.jump nn)).Carries (.jp nn) m := .inl ⟨rfl, rfl⟩

theorem carries_call (nn : UInt16) : (call nn).Carries (.call nn) m := by
  rcases Nat.lt_or_ge m.regs.sp.toNat 2 with h | h
  · exact .inr ⟨_, if_pos h, on_call_of_lt h _⟩
  · exact .inl ⟨if_neg (Nat.not_lt.mpr h), on_call h _⟩

theorem carries_ret : ret.Carries .ret m := by
  rcases Nat.lt_or_ge m.regs.sp.toNat 0xFFFE with h | h
  · exact .inl ⟨if_pos h, on_ret h⟩
  · exact .inr ⟨_, if_neg (Nat.not_lt.mpr h), on_ret_of_le h⟩

/-- Interrupts stay off if there is nowhere to return to. -/
theorem carries_reti :
    (do ret; update fun m => { m with ime := true }).Carries .reti m := by
  rcases Nat.lt_or_ge m.regs.sp.toNat 0xFFFE with h | h
  · exact .inl ⟨if_pos h, by simp only [on_bind, on_ret h]; rfl⟩
  · exact .inr ⟨_, if_neg (Nat.not_lt.mpr h), by simp only [on_bind, on_ret_of_le h]⟩

theorem on_whenHolds (cc : Condition) (e : Machine.Effect Unit) (m : Machine) :
    (whenHolds cc e).on m = if cc.holds m.regs.flags then e.on m else (.ok (), m) := by
  simp only [whenHolds, on_bind, on_get]
  split <;> rfl

/-- An instruction that depends on a condition is the one without where the condition holds, and has
no effect where it does not. -/
theorem carries_whenHolds {cc : Condition} {e : Machine.Effect Unit} {j : Instr}
    (h : e.Carries i m)
    (hv : j.verdict m.regs = if cc.holds m.regs.flags then i.verdict m.regs else .completes)
    (hexec : j.exec m = if cc.holds m.regs.flags then i.exec m else m) :
    (whenHolds cc e).Carries j m := by
  unfold Carries
  rw [on_whenHolds, hv, hexec]
  split
  · exact h
  · exact .inl ⟨rfl, rfl⟩

end Machine.Effect

namespace Action

variable {α β : Type} {c : Cpu} {i : Instr}

theorem on_lift (e : Machine.Effect α) (c : Cpu) :
    (liftM e : Action α).on c =
      ⟨((e.on c.toMachine).1, { c with toMachine := (e.on c.toMachine).2 }), []⟩ := rfl

theorem on_lift_bind (e : Machine.Effect α) (f : α → Action β) (c : Cpu) :
    (liftM e >>= f).on c =
      match e.on c.toMachine with
      | (.ok a, m) => (f a).on { c with toMachine := m }
      | (.error fault, m) => ⟨(.error fault, { c with toMachine := m }), []⟩ := by
  show (Logged.mk ((e.on c.toMachine).1, { c with toMachine := (e.on c.toMachine).2 }) []).andThen
    (fun rc => (ExceptT.bindCont f rc.1).run rc.2) = _
  generalize e.on c.toMachine = r
  obtain ⟨_ | _, _⟩ := r <;> rfl

theorem on_of_carries {e : Machine.Effect Unit} (h : e.Carries i c.toMachine) :
    (liftM e : Action Unit).on c = c.settled i := by
  rw [on_lift]
  rcases h with ⟨hv, he⟩ | ⟨fault, hv, he⟩
  · rw [he, Cpu.settled_of_completes hv]
  · rw [he, Cpu.settled_of_fails hv]

/-- Two effects that carry out an instruction between them. -/
theorem on_bind_of_carries {x : Machine.Effect α} {f : α → Machine.Effect Unit}
    (h : (x >>= f).Carries i c.toMachine) :
    (liftM x >>= fun a => liftM (f a) : Action Unit).on c = c.settled i := by
  rw [← on_of_carries h, on_lift_bind, on_lift, Machine.Effect.on_bind]
  generalize x.on c.toMachine = r
  obtain ⟨_ | _, _⟩ := r <;> rfl

theorem on_byte_bind {f : UInt8 → Action Unit} (hlen : i.length = 2)
    (hf : (f (c.mem.read c.regs.pc)).on { c with toMachine := c.jump (c.regs.pc + 1) } =
      (c.behind i).settled i) :
    (liftM operandByte >>= f).on c = c.carried i := by
  rw [on_lift_bind]
  rcases Nat.lt_or_ge c.regs.pc.toNat 0xFFFF with h | h
  · rw [Machine.on_operandByte h, Cpu.carried_of_lt (by omega)]
    exact hf
  · have hpc : c.regs.pc = 0xFFFF :=
      UInt16.toNat_inj.mp (Nat.le_antisymm (Nat.le_of_lt_succ c.regs.pc.toNat_lt) h)
    rw [Machine.on_operandByte_of_last hpc, Cpu.carried_of_le (by omega), ← hpc]
    rfl

theorem on_byte {f : UInt8 → Action Unit} (hlen : i.length = 2) (hp : i.isPrefixed = false)
    (hf : ∀ c' : Cpu, (f (c.mem.read c.regs.pc)).on c' = c'.settled i) :
    (liftM operandByte >>= f).on c = c.carried i := by
  apply on_byte_bind hlen
  rw [Cpu.behind_eq 1 hlen hp]
  exact hf _

theorem on_word {f : UInt16 → Action Unit} (hlen : i.length = 3)
    (hf : ∀ c' : Cpu, (f (c.mem.readWord c.regs.pc)).on c' = c'.settled i) :
    (liftM operandWord >>= f).on c = c.carried i := by
  have hp : i.isPrefixed = false := by cases i <;> first | rfl | cases hlen
  rw [on_lift_bind]
  rcases Nat.lt_or_ge c.regs.pc.toNat 0xFFFE with h | h
  · rw [Machine.on_operandWord h, Cpu.carried_of_lt (by omega), Cpu.behind_eq 2 hlen hp]
    exact hf _
  · rw [Machine.on_operandWord_of_le h, Cpu.carried_of_le (by omega)]

end Action

namespace CbHandler

def instr (op : UInt8) : CbHandler → CbInstr
  | .shift => .shift (.ofBits (Opcode.upper op)) (.ofBits op.toNat)
  | .test => .test (Opcode.upper op) (.ofBits op.toNat)
  | .reset => .reset (Opcode.upper op) (.ofBits op.toNat)
  | .set => .set (Opcode.upper op) (.ofBits op.toNat)

theorem on_run (h : CbHandler) (op : UInt8) (c : Cpu) :
    (h.run op).on c = c.settled (.cb (h.instr op)) := by
  cases h <;> rfl

theorem instr_cbTable : ∀ op, (cbTable.entry op).instr op = .decode op := by
  decide +kernel

end CbHandler

/-! ### The first page -/

namespace Handler

/-- The instruction that a handler carries out, given the opcode and what lies behind it. -/
def instr (op n : UInt8) (nn : UInt16) : Handler → Instr
  | .unknown => .illegal op
  | .nop => .nop
  | .halt => .halt
  | .stop => .stop
  | .disableInterrupts => .disableInterrupts
  | .enableInterrupts => .enableInterrupts
  | .prefixed => .cb (.decode n)
  | .load => .load (.ofBits (Opcode.upper op)) (.ofBits op.toNat)
  | .loadImm => .loadImm (.ofBits (Opcode.upper op)) n
  | .storeTo p => .storeTo p
  | .loadFrom p => .loadFrom p
  | .storeAt => .storeAt nn
  | .loadAt => .loadAt nn
  | .storeHigh => .storeHigh n
  | .loadHigh => .loadHigh n
  | .storeHighC => .storeHighC
  | .loadHighC => .loadHighC
  | .loadPair => .loadPair (.ofBits (Opcode.pair op)) nn
  | .storeSp => .storeSp nn
  | .loadSpHl => .loadSpHl
  | .loadHlSp => .loadHlSp n
  | .push => .push (.ofStackBits (Opcode.pair op))
  | .pop => .pop (.ofStackBits (Opcode.pair op))
  | .alu => .alu (.ofBits (Opcode.upper op)) (.ofBits op.toNat)
  | .aluImm => .aluImm (.ofBits (Opcode.upper op)) n
  | .inc => .inc (.ofBits (Opcode.upper op))
  | .dec => .dec (.ofBits (Opcode.upper op))
  | .daa => .daa
  | .cpl => .cpl
  | .scf => .scf
  | .ccf => .ccf
  | .incPair => .incPair (.ofBits (Opcode.pair op))
  | .decPair => .decPair (.ofBits (Opcode.pair op))
  | .addHl => .addHl (.ofBits (Opcode.pair op))
  | .addSp => .addSp n
  | .rlca => .rlca
  | .rrca => .rrca
  | .rla => .rla
  | .rra => .rra
  | .jp => .jp nn
  | .jpIf => .jpIf (.ofBits (Opcode.upper op)) nn
  | .jpHl => .jpHl
  | .jr => .jr n
  | .jrIf => .jrIf (.ofBits (Opcode.upper op - 4)) n
  | .call => .call nn
  | .callIf => .callIf (.ofBits (Opcode.upper op)) nn
  | .ret => .ret
  | .retIf => .retIf (.ofBits (Opcode.upper op))
  | .reti => .reti
  | .rst => .rst (Opcode.upper op)

theorem instr_eq_withOperands (h : Handler) (op n : UInt8) (nn : UInt16) :
    h.instr op n nn = (h.instr op 0 0).withOperands n nn := by
  cases h <;> rfl

/-- The table and the decoder take an opcode for the same instruction. -/
theorem instr_baseTable (op n : UInt8) (nn : UInt16) :
    (baseTable.entry op).instr op n nn = .decode op n nn := by
  have all : ∀ op, (baseTable.entry op).instr op 0 0 = .decode op 0 0 := by decide +kernel
  rw [instr_eq_withOperands, all, ← Instr.decode_eq_withOperands]

open Machine.Effect

theorem toUInt16_slot (op : UInt8) :
    (op &&& 0x38).toUInt16 = 8 * UInt16.ofNat (Opcode.upper op) := by
  have all : ∀ op : UInt8, (op &&& 0x38).toUInt16 = 8 * UInt16.ofNat (Opcode.upper op) := by
    decide +kernel
  exact all op

/-- A handler does what its instruction does as a whole. -/
theorem on_run (h : Handler) (op : UInt8) (c : Cpu) :
    (h.run op).on c =
      c.carried (h.instr op (c.mem.read c.regs.pc) (c.mem.readWord c.regs.pc)) := by
  cases h with
  | stop => exact Action.on_byte_bind rfl rfl
  | prefixed =>
    refine Action.on_byte_bind rfl ?_
    show ((cbTable.entry _).run _).on _ = _
    rw [CbHandler.on_run, CbHandler.instr_cbTable]
    rfl
  | loadImm | storeHigh | loadHigh | loadHlSp | aluImm | addSp =>
    exact Action.on_byte rfl rfl fun _ => Action.on_of_carries (.inl ⟨rfl, rfl⟩)
  | jr => exact Action.on_byte rfl rfl fun _ => Action.on_of_carries (carries_jumpRelative _)
  | jrIf =>
    exact Action.on_byte rfl rfl fun _ =>
      Action.on_of_carries (carries_whenHolds (carries_jumpRelative _) rfl rfl)
  | storeAt | loadAt | loadPair =>
    exact Action.on_word rfl fun _ => Action.on_of_carries (.inl ⟨rfl, rfl⟩)
  | jp => exact Action.on_word rfl fun _ => Action.on_of_carries (carries_jump _)
  | storeSp => exact Action.on_word rfl fun _ => Action.on_bind_of_carries (.inl ⟨rfl, rfl⟩)
  | call => exact Action.on_word rfl fun _ => Action.on_of_carries (carries_call _)
  | callIf =>
    exact Action.on_word rfl fun _ =>
      Action.on_of_carries (carries_whenHolds (carries_call _) rfl rfl)
  | jpIf =>
    exact Action.on_word rfl fun _ =>
      Action.on_of_carries (carries_whenHolds (carries_jump _) (ite_self _).symm rfl)
  | push =>
    rw [Cpu.carried_of_length_one rfl]
    exact Action.on_of_carries (carries_push _)
  | pop =>
    rw [Cpu.carried_of_length_one rfl]
    exact Action.on_of_carries (carries_pop _)
  | ret =>
    rw [Cpu.carried_of_length_one rfl]
    exact Action.on_of_carries carries_ret
  | retIf =>
    rw [Cpu.carried_of_length_one rfl]
    exact Action.on_of_carries (carries_whenHolds carries_ret rfl rfl)
  | reti =>
    rw [Cpu.carried_of_length_one rfl]
    exact Action.on_bind_of_carries carries_reti
  | rst =>
    rw [Cpu.carried_of_length_one rfl]
    show (liftM (Machine.call (op &&& 0x38).toUInt16) : Action Unit).on c = _
    rw [toUInt16_slot]
    exact Action.on_of_carries (carries_call _)
  | _ =>
    rw [Cpu.carried_of_length_one rfl]
    rfl

end Handler

/-- An entry of a table does what its instruction does as a whole. -/
theorem Cpu.invokeLogged_eq (page : OpcodePage) (opcode : UInt8) (c : Cpu) :
    c.invokeLogged page opcode =
      (c.dispatchOn page opcode).2.settle (c.dispatchOn page opcode).1 := by
  cases page with
  | base =>
    show ((baseTable.entry opcode).run opcode).on c = _
    rw [Handler.on_run, Handler.instr_baseTable]
    rfl
  | cb =>
    show ((cbTable.entry opcode).run opcode).on c = _
    rw [CbHandler.on_run, CbHandler.instr_cbTable]
    rfl

end Lr35902
