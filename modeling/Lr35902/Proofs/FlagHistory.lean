import Lr35902.Proofs.FlagRegister
import Lr35902.Proofs.Operations
import Lr35902.Proofs.Stack

/-!
# The history of the flag register

Whatever is done to a processor, all that happens to its flags is a sequence of writes to the flag
register (`Cpu.flags_accessed`). Hence the low half of that byte stays clear, every snapshot has the
byte that its four flags make up, and a word that `AF` was pushed as brings back both registers
(`flag_register_well_formed`).
-/

namespace Lr35902

open FlagWrite (onFlags)

/-! ### The processor -/

namespace Cpu

theorem toMachine_halt (c : Cpu) (reason : HaltReason) :
    (c.halt reason).toMachine = c.toMachine := by
  unfold halt
  split <;> rfl

theorem toMachine_fail (c : Cpu) (fault : Fault) : (c.fail fault).toMachine = c.toMachine := by
  cases fault <;> exact toMachine_halt ..

theorem toMachine_behind (c : Cpu) (i : Instr) :
    (c.behind i).toMachine = c.jump (UInt16.ofNat (c.regs.pc.toNat + (i.length - 1))) := by
  cases i <;> rfl

theorem flags_attempt (c : Cpu) (i : Instr) :
    (c.attempt i).1.regs.flags = (i.flagWrites c.toMachine).foldl onFlags c.regs.flags := by
  by_cases h : i.verdict c.regs = .completes
  · rw [attempt_of_completes h]
    exact i.flags_exec c.toMachine h
  · rw [attempt_of_not_completes h, i.flagWrites_of_not_completes c.toMachine h]
    rfl

/-- The writes of an instruction whose operands lie at the program counter. -/
def carryWrites (c : Cpu) (i : Instr) : List FlagWrite :=
  if c.regs.pc.toNat + (i.length - 1) < 65536 then i.flagWrites c.toMachine else []

theorem flags_carry (c : Cpu) (i : Instr) :
    (c.carry i).1.regs.flags = (c.carryWrites i).foldl onFlags c.regs.flags := by
  unfold carry carryWrites
  split
  · rw [flags_attempt, toMachine_behind]
    exact congrArg (List.foldl onFlags c.regs.flags) (Instr.flagWrites_pc ..)
  · rfl

theorem flags_settle (c : Cpu) (v : Verdict) :
    (v.settle c).value.2.regs.flags = c.regs.flags := by
  cases v with
  | completes | fails => rfl
  | halts reason => exact congrArg (·.regs.flags) (toMachine_halt ..)

/-- The writes of executing an opcode whose operands lie at the program counter. -/
def dispatchWrites (c : Cpu) (opcode : UInt8) : List FlagWrite :=
  c.carryWrites (.decode opcode (c.mem.read c.regs.pc) (c.mem.readWord c.regs.pc))

def dispatchOnWrites (page : OpcodePage) (c : Cpu) (opcode : UInt8) : List FlagWrite :=
  match page with
  | .base => c.dispatchWrites opcode
  | .cb => (CbInstr.decode opcode).flagWrites c.toMachine

theorem flags_dispatchOn (page : OpcodePage) (c : Cpu) (opcode : UInt8) :
    (c.dispatchOn page opcode).1.regs.flags =
      (c.dispatchOnWrites page opcode).foldl onFlags c.regs.flags := by
  cases page with
  | base => exact flags_carry c _
  | cb => exact flags_attempt c _

theorem flags_fetch (c : Cpu) : c.fetch.regs.flags = c.regs.flags := by
  unfold fetch
  cases h : c.isHalted with
  | true => rw [fetchLogged_of_halted h]
  | false =>
    rcases Nat.lt_or_ge c.regs.pc.toNat 0xFFFF with hpc | hpc
    · rw [fetchLogged_of_lt h hpc]
      rfl
    · have hlast := Nat.le_antisymm (Nat.le_of_lt_succ c.regs.pc.toNat_lt) hpc
      rw [fetchLogged_of_last h hlast]
      exact congrArg (·.regs.flags) (toMachine_halt ..)

def decodeWrites (c : Cpu) : List FlagWrite :=
  if c.isHalted then [] else c.dispatchWrites c.opcode

theorem flags_decode (c : Cpu) :
    c.decode.regs.flags = c.decodeWrites.foldl onFlags c.regs.flags := by
  unfold decode decodeWrites
  cases h : c.isHalted with
  | true =>
    rw [decodeLogged_of_halted h]
    rfl
  | false =>
    have hflags : (c.dispatch c.opcode).1.regs.flags = _ := flags_carry c _
    rw [decodeLogged_of_running h, if_neg Bool.false_ne_true, dispatchWrites, ← hflags]
    generalize c.dispatch c.opcode = result
    obtain ⟨c', verdict⟩ := result
    cases verdict with
    | completes => rfl
    | halts reason => exact congrArg (·.regs.flags) (toMachine_halt ..)
    | fails fault => exact congrArg (·.regs.flags) (toMachine_fail ..)

def stepWrites (c : Cpu) : List FlagWrite := c.fetch.decodeWrites

theorem flags_step (c : Cpu) : c.step.regs.flags = c.stepWrites.foldl onFlags c.regs.flags := by
  rw [step_eq, flags_decode, flags_fetch]
  rfl

/-- The writes of `n` steps. -/
def stepsWrites : Nat → Cpu → List FlagWrite
  | 0, _ => []
  | n + 1, c => c.stepWrites ++ stepsWrites n c.step

theorem flags_iterate (n : Nat) (c : Cpu) :
    (step^[n] c).regs.flags = (stepsWrites n c).foldl onFlags c.regs.flags := by
  induction n generalizing c with
  | zero => rfl
  | succ n ih =>
    rw [Function.iterate_succ_apply, ih, flags_step, stepsWrites, List.foldl_append]

theorem flags_invoke (page : OpcodePage) (opcode : UInt8) (c : Cpu) :
    (c.invokeLogged page opcode).value.2.regs.flags =
      (c.dispatchOnWrites page opcode).foldl onFlags c.regs.flags := by
  rw [← flags_dispatchOn, invokeLogged_eq, flags_settle]

end Cpu

def Operation.flagWrites (c : Cpu) : Operation → List FlagWrite
  | .fetch => []
  | .decode => c.decodeWrites
  | .step => c.stepWrites
  | .run limit => Cpu.stepsWrites limit c
  | .invoke page opcode => c.dispatchOnWrites page opcode
  | .overwrite m => [.whole m.regs.flags.toByte]

theorem Operation.flags_apply (c : Cpu) (op : Operation) :
    (op.apply c).regs.flags = (op.flagWrites c).foldl onFlags c.regs.flags := by
  cases op with
  | fetch => exact c.flags_fetch
  | decode => exact c.flags_decode
  | step => exact c.flags_step
  | run limit =>
    show (c.run (some limit)).2.regs.flags = _
    rw [Cpu.run_some]
    exact Cpu.flags_iterate limit c
  | invoke page opcode => exact Cpu.flags_invoke page opcode c
  | overwrite m => exact (Flags.ofByte_toByte m.regs.flags).symm

/-! ### Any access -/

/-- What else can be done to a processor: its register file is open to the arithmetic unit, the
stack and direct writes, and a handler can be called with any opcode. -/
inductive Access where
  | operation (op : Operation)
  | handle (h : Handler) (opcode : UInt8)
  | handlePrefixed (h : CbHandler) (opcode : UInt8)
  | call (r : Routine)
  | stack (op : StackOp)
  | writePair (pair : Reg16) (w : UInt16)
  | writeFlagByte (v : UInt8)
  | writeFlag (flag : Flag) (v : Bool)
  | writeFlags (f : Flags)
  | updateBit (flag : Flag) (bit : UInt8)
  | updateLetter (letter : Char) (bit : UInt8)

namespace Cpu

def withFlags? (c : Cpu) : Except FlagError Flags → Cpu
  | .ok f => { c with toMachine := c.toMachine.setFlags f }
  | .error _ => c

theorem flags_handle (h : Handler) (opcode : UInt8) (c : Cpu) :
    ((h.run opcode).on c).value.2.regs.flags =
      (c.carryWrites (h.instr opcode (c.mem.read c.regs.pc) (c.mem.readWord c.regs.pc))).foldl
        onFlags c.regs.flags := by
  rw [Handler.on_run, ← flags_carry]
  exact flags_settle ..

theorem flags_handlePrefixed (h : CbHandler) (opcode : UInt8) (c : Cpu) :
    ((h.run opcode).on c).value.2.regs.flags =
      ((h.instr opcode).flagWrites c.toMachine).foldl onFlags c.regs.flags := by
  rw [CbHandler.on_run, settled, flags_settle]
  exact flags_attempt c _

theorem evolves_withFlags? (c : Cpu) (f : Except FlagError Flags) :
    c.Evolves (c.withFlags? f) := by
  cases f <;> exact .of_eq rfl rfl

end Cpu

theorem StackOp.flags_apply (m : Machine) (op : StackOp) :
    (op.apply m).2.regs.flags = m.regs.flags := by
  cases op with
  | push w =>
    rcases Nat.lt_or_ge m.regs.sp.toNat 2 with h | h
    · rw [apply_push_of_lt h]
    · rw [apply_push h]
      rfl
  | pop =>
    rcases Nat.lt_or_ge m.regs.sp.toNat 0xFFFE with h | h
    · rw [apply_pop h]
      rfl
    · rw [apply_pop_of_le h]

namespace Access

def apply (c : Cpu) : Access → Cpu
  | .operation op => op.apply c
  | .handle h opcode => ((h.run opcode).on c).value.2
  | .handlePrefixed h opcode => ((h.run opcode).on c).value.2
  | .call r => c.withFlags? (.ok (r.flags c.regs.flags))
  | .stack op => { c with toMachine := (op.apply c.toMachine).2 }
  | .writePair pair w => { c with toMachine := c.toMachine.setPair pair w }
  | .writeFlagByte v => c.withFlags? (.ok (.ofByte v))
  | .writeFlag flag v => c.withFlags? (.ok (c.regs.flags.set flag v))
  | .writeFlags f => c.withFlags? (.ok f)
  | .updateBit flag bit => c.withFlags? (c.regs.flags.updateBit flag bit).value
  | .updateLetter letter bit => c.withFlags? (c.regs.flags.updateLetter letter bit).value

/-- A bit other than 0 and 1 is not written. -/
def bitWrites (flag : Flag) (bit : UInt8) : List FlagWrite :=
  if bit < 2 then [.bit flag (bit == 1)] else []

def letterWrites (letter : Char) (bit : UInt8) : List FlagWrite :=
  match Flag.ofLetter letter with
  | .ok flag => bitWrites flag bit
  | .error _ => []

def flagWrites (c : Cpu) : Access → List FlagWrite
  | .operation op => op.flagWrites c
  | .handle h opcode =>
    c.carryWrites (h.instr opcode (c.mem.read c.regs.pc) (c.mem.readWord c.regs.pc))
  | .handlePrefixed h opcode => (h.instr opcode).flagWrites c.toMachine
  | .call r => r.flagWrites c.regs.flags
  | .stack _ => []
  | .writePair pair w => pair.flagWrites w
  | .writeFlagByte v => [.whole v]
  | .writeFlag flag v => [.bit flag v]
  | .writeFlags f => FlagWrite.all f
  | .updateBit flag bit => bitWrites flag bit
  | .updateLetter letter bit => letterWrites letter bit

theorem flags_updateBit (c : Cpu) (flag : Flag) (bit : UInt8) :
    (c.withFlags? (c.regs.flags.updateBit flag bit).value).regs.flags =
      (bitWrites flag bit).foldl onFlags c.regs.flags := by
  unfold Flags.updateBit Flags.setBit bitWrites
  split
  · rename_i f h
    split at h
    · rename_i hlt
      cases h
      rw [if_pos hlt]
      rfl
    · cases h
  · rename_i e h
    split at h
    · cases h
    · rename_i hge
      rw [if_neg hge]
      rfl

theorem flags_updateLetter (c : Cpu) (letter : Char) (bit : UInt8) :
    (c.withFlags? (c.regs.flags.updateLetter letter bit).value).regs.flags =
      (letterWrites letter bit).foldl onFlags c.regs.flags := by
  unfold Flags.updateLetter letterWrites
  generalize Flag.ofLetter letter = found
  cases found with
  | ok flag => exact flags_updateBit c flag bit
  | error e => rfl

/-- The writes of an access are all that happens to the flags. -/
theorem flags_apply (c : Cpu) (a : Access) :
    (a.apply c).regs.flags = (a.flagWrites c).foldl onFlags c.regs.flags := by
  cases a with
  | operation op => exact op.flags_apply c
  | handle h opcode => exact Cpu.flags_handle h opcode c
  | handlePrefixed h opcode => exact Cpu.flags_handlePrefixed h opcode c
  | call r => exact r.flags_eq c.regs.flags
  | stack op => exact op.flags_apply c.toMachine
  | writePair pair w => exact pair.flags_setPair c.regs w
  | writeFlagByte v => rfl
  | writeFlag flag v => rfl
  | writeFlags f => rfl
  | updateBit flag bit => exact flags_updateBit c flag bit
  | updateLetter letter bit => exact flags_updateLetter c letter bit

theorem evolves_apply (c : Cpu) (a : Access) : c.Evolves (a.apply c) := by
  cases a with
  | operation op => exact c.evolves_apply op
  | handle h opcode =>
    show c.Evolves ((h.run opcode).on c).value.2
    rw [Handler.on_run]
    exact c.evolves_carried _
  | handlePrefixed h opcode =>
    show c.Evolves ((h.run opcode).on c).value.2
    rw [CbHandler.on_run]
    exact c.evolves_settled _
  | stack | writePair => exact .of_eq rfl rfl
  | call r => exact c.evolves_withFlags? (.ok (r.flags c.regs.flags))
  | writeFlagByte v => exact c.evolves_withFlags? (.ok (.ofByte v))
  | writeFlag flag v => exact c.evolves_withFlags? (.ok (c.regs.flags.set flag v))
  | writeFlags f => exact c.evolves_withFlags? (.ok f)
  | updateBit | updateLetter => exact c.evolves_withFlags? _

end Access

/-- What is done to the accumulator and the flags between a push and a pop of `AF` is undone. -/
theorem Machine.regs_pop_push {m : Machine} (h : 2 ≤ m.regs.sp.toNat) (a : UInt8) (g : Flags) :
    let m' := m.pushWord m.regs.af
    let changed := { m' with regs := { m'.regs with a := a, flags := g } }
    changed.regs.sp.toNat < 0xFFFE ∧ changed.topWord = m.regs.af ∧
      (changed.dropWord.setPair .af m.regs.af).regs = m.regs := by
  intro m' changed
  have hsp : changed.regs.sp = m.regs.sp - 2 := rfl
  have htop := m.regs.sp.toNat_lt
  refine ⟨?_, m.topWord_pushWord m.regs.af, ?_⟩
  · rw [hsp, (toNat_below h).2]
    omega
  · have hback : m.regs.sp - 2 + 2 = m.regs.sp := UInt16.sub_add_cancel ..
    show { m.regs with
      a := Word.high m.regs.af, flags := .ofByte (Word.low m.regs.af), sp := m.regs.sp - 2 + 2 } = _
    unfold Registers.af
    rw [hback, Word.high_ofBytes, Word.low_ofBytes, Flags.ofByte_toByte]

/-- A snapshot whose flag byte is made up of its four flags. -/
def Snapshot.FlagsAgree (s : Snapshot) : Prop :=
  s.f.toNat =
    128 * s.zero.toNat + 64 * s.subtract.toNat + 32 * s.halfCarry.toNat + 16 * s.carry.toNat

theorem Flags.toNat_toByte (f : Flags) :
    f.toByte.toNat =
      128 * f.zero.toNat + 64 * f.subtract.toNat + 32 * f.halfCarry.toNat +
        16 * f.carry.toNat := by
  obtain ⟨z, n, h, c⟩ := f
  cases z <;> cases n <;> cases h <;> cases c <;> rfl

namespace Cpu

theorem flagsAgree_capture (c : Cpu) (reason : Option HaltReason) :
    (c.capture reason).FlagsAgree :=
  c.regs.flags.toNat_toByte

def accessed (c : Cpu) (as : List Access) : Cpu := as.foldl Access.apply c

/-- The writes to the flag register over a sequence of accesses. -/
def flagHistory : Cpu → List Access → List FlagWrite
  | _, [] => []
  | c, a :: as => a.flagWrites c ++ flagHistory (a.apply c) as

theorem flags_accessed (c : Cpu) (as : List Access) :
    (c.accessed as).regs.flags = (c.flagHistory as).foldl onFlags c.regs.flags := by
  induction as generalizing c with
  | nil => rfl
  | cons a as ih =>
    rw [flagHistory, List.foldl_append, ← a.flags_apply]
    exact ih (a.apply c)

theorem evolves_accessed (c : Cpu) (as : List Access) : c.Evolves (c.accessed as) := by
  induction as generalizing c with
  | nil => exact .refl c
  | cons a as ih => exact (a.evolves_apply c).trans (ih (a.apply c))

/-- Whatever has been done to a fresh processor, its record is a snapshot taken at some point. -/
theorem flagsAgree_record (as : List Access) {s : Snapshot}
    (h : (fresh.accessed as).haltRecord? = some s) : s.FlagsAgree := by
  rcases (evolves_accessed fresh as).captured s (status_of_haltRecord? h) with hfresh | ⟨c, hc⟩
  · cases hfresh
  · rw [hc]
    exact flagsAgree_capture ..

theorem flagsAgree_snapshot (as : List Access) : (fresh.accessed as).snapshot.FlagsAgree := by
  unfold snapshot
  cases h : (fresh.accessed as).haltRecord? with
  | none => exact flagsAgree_capture ..
  | some s => exact flagsAgree_record as h

/-- Whatever has been done to a fresh processor: its flag byte has come about by writes that leave
the low half clear, and shows the flags one by one; the snapshots and the record of the halt, if
there is one, have the byte that their flags make up; and as long as there is room on the stack,
pushing `AF` and popping it again restores it, whatever happened to it in between. -/
theorem flag_register_well_formed (as : List Access) :
    let c := fresh.accessed as
    let f := c.regs.flags.toByte
    f = (fresh.flagHistory as).foldl FlagWrite.apply 0xB0 ∧ f &&& 0x0F = 0 ∧
    (∀ flag, c.regs.flags.get flag = (f &&& flag.mask != 0)) ∧
    c.snapshot.FlagsAgree ∧ (∀ s, c.haltRecord? = some s → s.FlagsAgree) ∧
    (2 ≤ c.regs.sp.toNat →
      ∃ pushed, (StackOp.push c.regs.af).apply c.toMachine = (.ok none, pushed) ∧
        ∀ a g, ∃ popped,
          StackOp.pop.apply { pushed with regs := { pushed.regs with a := a, flags := g } } =
            (.ok (some c.regs.af), popped) ∧
          (popped.setPair .af c.regs.af).regs = c.regs) := by
  intro c f
  have hhistory : f = (fresh.flagHistory as).foldl FlagWrite.apply 0xB0 := by
    show c.regs.flags.toByte = _
    rw [flags_accessed, FlagWrite.toByte_foldl]
    rfl
  refine ⟨hhistory, ?_, FlagWrite.get_eq _, flagsAgree_snapshot as,
    fun s hs => flagsAgree_record as hs, ?_⟩
  · rw [hhistory]
    exact FlagWrite.low_foldl _ rfl
  · intro hsp
    refine ⟨_, StackOp.apply_push hsp, ?_⟩
    intro a g
    obtain ⟨hroom, htop, hregs⟩ := Machine.regs_pop_push hsp a g
    refine ⟨_, ?_, hregs⟩
    rw [StackOp.apply_pop hroom, htop]

/-- A word written to `AF` loses its low half byte; the rest comes back from the stack. -/
theorem flag_register_well_formed_pop :
    let c := fresh.accessed [.writePair .af 0x12BF, .updateLetter 'n' 1, .call (.daa 0x9A)]
    2 ≤ c.regs.sp.toNat ∧ c.regs.flags.toByte = 0x50 ∧
      ∃ pushed, (StackOp.push c.regs.af).apply c.toMachine = (.ok none, pushed) ∧
        ∃ popped,
          StackOp.pop.apply
              { pushed with regs := { pushed.regs with a := 0, flags := .ofByte 0 } } =
            (.ok (some c.regs.af), popped) ∧
          (popped.setPair .af c.regs.af).regs = c.regs := by
  intro c
  have hsp : 2 ≤ c.regs.sp.toNat := by decide
  obtain ⟨-, -, -, -, -, hpush⟩ := flag_register_well_formed
    [.writePair .af 0x12BF, .updateLetter 'n' 1, .call (.daa 0x9A)]
  obtain ⟨pushed, hpushed, hpop⟩ := hpush hsp
  exact ⟨hsp, by decide, pushed, hpushed, hpop 0 (.ofByte 0)⟩

end Cpu

end Lr35902
