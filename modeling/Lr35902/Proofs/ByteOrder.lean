import Lr35902.Proofs.Lengths

/-!
# The byte order of words

Words in memory have their low byte first, and whoever reads or stores one keeps to it: pushes and
pops, the store of the stack pointer, and the operands of instructions (`words_low_byte_first`). An
instruction that is carried out takes its operand from memory as it is before the step
(`machine_step_of_opcode`), so it does not matter if the step overwrites the instruction.
-/

namespace Lr35902

namespace Opcode

/-- The opcodes of `LD` into a pair, of a word behind the opcode. -/
def wordLoads : List (UInt8 × Reg16) := [(0x01, .bc), (0x11, .de), (0x21, .hl), (0x31, .sp)]

/-- The opcodes of `PUSH`. -/
def pushes : List (UInt8 × Reg16) := [(0xC5, .bc), (0xD5, .de), (0xE5, .hl), (0xF5, .af)]

/-- The opcodes of `POP`. -/
def pops : List (UInt8 × Reg16) := [(0xC1, .bc), (0xD1, .de), (0xE1, .hl), (0xF1, .af)]

/-- The opcodes of `JP` to the address behind the opcode. -/
def wordJumps : List Nat := [0xC3, 0xC2, 0xCA, 0xD2, 0xDA]

end Opcode

namespace Instr

theorem decode_of_mem {l : List (UInt8 × Reg16)} {f : Reg16 → Instr} {op : UInt8} {pair : Reg16}
    (hl : ∀ e ∈ l, decode e.1 0 0 = f e.2) (h : (op, pair) ∈ l) (n : UInt8) (nn : UInt16) :
    decode op n nn = (f pair).withOperands n nn := by
  rw [decode_eq_withOperands]
  exact congrArg _ (hl _ h)

/-- Where an instruction leads that has the address as its operand. -/
def wordTarget? : Instr → Option UInt16
  | .jp nn | .jpIf _ nn | .call nn | .callIf _ nn => some nn
  | _ => none

theorem wordTarget?_decode {op : UInt8} (n : UInt8) (nn : UInt16)
    (h : op.toNat ∈ Opcode.wordJumps ++ Opcode.calls) :
    (decode op n nn).wordTarget? = some nn := by
  have hop : (decode op 0 0).wordTarget? = some 0 := Opcode.forall_of_mem op h (by decide)
  rw [decode_eq_withOperands]
  generalize decode op 0 0 = i at hop
  cases i <;> first | rfl | cases hop

theorem pc_exec_of_wordTarget {m : Machine} {i : Instr} {target : UInt16}
    (h : i.wordTarget? = some target) (ht : i.taken m.regs.flags = true) :
    (i.exec m).regs.pc = target := by
  cases i with
  | jp | call =>
    cases h
    rfl
  | jpIf cc | callIf cc =>
    cases h
    rw [exec, if_pos (show cc.holds m.regs.flags = true from ht)]
    rfl
  | _ => cases h

end Instr

theorem Flags.toNat_toByte_ofByte :
    ∀ b : UInt8, (ofByte b).toByte.toNat = 16 * (b.toNat / 16) := by
  decide +kernel

/-- A word written to `AF` loses its low four bits, to any other pair none. -/
theorem Registers.getPair_setPair (r : Registers) (pair : Reg16) (w : UInt16) :
    (r.setPair pair w).getPair pair = if pair = .af then w / 16 * 16 else w := by
  by_cases h : pair = .af
  · subst h
    rw [if_pos rfl]
    apply UInt16.toNat_inj.mp
    show (Word.ofBytes (Word.high w) (Flags.ofByte (Word.low w)).toByte).toNat = _
    have := w.toNat_lt
    simp only [Word.toNat_ofBytes, Flags.toNat_toByte_ofByte, Word.toNat_high, Word.toNat_low,
      UInt16.toNat_mul, UInt16.toNat_div, UInt16.reduceToNat]
    omega
  · rw [if_neg h, getPair_setPair_self r w h]

/-! ### Steps -/

namespace Cpu

variable {c : Cpu} {op : UInt8} {pair : Reg16}

/-- A step that does not halt the processor carries out the instruction of its opcode, with the
bytes that lie behind the opcode before the step. -/
theorem machine_step_of_opcode (h : c.isHalted = false) (hs : c.step.isHalted = false)
    (hop : c.mem.read c.regs.pc = op) :
    c.step.toMachine =
      (Instr.decode op (c.mem.read (c.regs.pc + 1)) (c.mem.readWord (c.regs.pc + 1))).exec
        c.consumed.toMachine := by
  have hc := cause?_eq_none h hs
  rw [step_of_no_cause h hc, nextInstr_eq (le_of_no_cause hc), hop]

theorem mem_step_of_storeSp (h : c.isHalted = false) (hs : c.step.isHalted = false)
    (hop : c.mem.read c.regs.pc = 0x08) :
    c.step.mem = c.mem.writeWord (c.mem.readWord (c.regs.pc + 1)) c.regs.sp :=
  congrArg (·.mem) (machine_step_of_opcode h hs hop)

theorem a_step_of_loadAt (h : c.isHalted = false) (hs : c.step.isHalted = false)
    (hop : c.mem.read c.regs.pc = 0xFA) :
    c.step.regs.a = c.mem.read (c.mem.readWord (c.regs.pc + 1)) :=
  congrArg (·.regs.a) (machine_step_of_opcode h hs hop)

theorem mem_step_of_storeAt (h : c.isHalted = false) (hs : c.step.isHalted = false)
    (hop : c.mem.read c.regs.pc = 0xEA) :
    c.step.mem = c.mem.write (c.mem.readWord (c.regs.pc + 1)) c.regs.a :=
  congrArg (·.mem) (machine_step_of_opcode h hs hop)

theorem getPair_step_of_wordLoad (h : c.isHalted = false) (hs : c.step.isHalted = false)
    (hmem : (c.mem.read c.regs.pc, pair) ∈ Opcode.wordLoads) :
    c.step.regs.getPair pair = c.mem.readWord (c.regs.pc + 1) := by
  have hpair : ∀ e ∈ Opcode.wordLoads, e.2 ≠ .af := by decide
  rw [machine_step_of_opcode h hs rfl,
    Instr.decode_of_mem (f := fun pair => .loadPair pair 0) (by decide) hmem]
  exact Registers.getPair_setPair_self _ _ (hpair _ hmem)

theorem pc_step_of_wordTarget (h : c.isHalted = false) (hs : c.step.isHalted = false)
    (hmem : (c.mem.read c.regs.pc).toNat ∈ Opcode.wordJumps ++ Opcode.calls)
    (ht : Opcode.taken c.regs.flags (c.mem.read c.regs.pc) = true) :
    c.step.regs.pc = c.mem.readWord (c.regs.pc + 1) := by
  rw [machine_step_of_opcode h hs rfl]
  exact Instr.pc_exec_of_wordTarget (Instr.wordTarget?_decode _ _ hmem)
    ((Instr.taken_decode ..).trans ht)

theorem readWord_step_of_push (h : c.isHalted = false) (hs : c.step.isHalted = false)
    (hmem : (c.mem.read c.regs.pc, pair) ∈ Opcode.pushes) :
    c.step.mem.readWord c.step.regs.sp = c.regs.getPair pair := by
  have hpair : c.consumed.regs.getPair pair = c.regs.getPair pair := by cases pair <;> rfl
  rw [machine_step_of_opcode h hs rfl, Instr.decode_of_mem (f := .push) (by decide) hmem,
    ← hpair]
  exact Machine.topWord_pushWord _ _

theorem getPair_step_of_pop (h : c.isHalted = false) (hs : c.step.isHalted = false)
    (hmem : (c.mem.read c.regs.pc, pair) ∈ Opcode.pops) :
    c.step.regs.getPair pair =
      if pair = .af then c.mem.readWord c.regs.sp / 16 * 16 else c.mem.readWord c.regs.sp := by
  rw [machine_step_of_opcode h hs rfl, Instr.decode_of_mem (f := .pop) (by decide) hmem]
  exact Registers.getPair_setPair ..

theorem pc_step_of_return (h : c.isHalted = false) (hs : c.step.isHalted = false)
    (hmem : (c.mem.read c.regs.pc).toNat ∈ Opcode.returns)
    (ht : Opcode.taken c.regs.flags (c.mem.read c.regs.pc) = true) :
    c.step.regs.pc = c.mem.readWord c.regs.sp := by
  have hregs := Instr.regs_exec_of_return (m := c.consumed.toMachine)
    (Instr.isReturn_of_mem (c.mem.read (c.regs.pc + 1)) (c.mem.readWord (c.regs.pc + 1)) hmem)
    ((Instr.taken_decode ..).trans ht)
  rw [machine_step_of_opcode h hs rfl, hregs]
  rfl

end Cpu

/-- All words in memory have their low byte first. A pop hands back the word that memory holds at
the stack pointer, and after a push memory holds the word there that was pushed. The same goes for
the instructions that a step carries out: `LD (nn),SP` leaves the stack pointer as the word at `nn`,
also round the top of memory; `LD rr,nn`, `LD A,(nn)`, `LD (nn),A`, `JP nn` and `CALL nn` take for
`nn` the word that memory holds behind the opcode before the step; and what `PUSH`, `CALL` and `RST`
put on the stack, or `POP` and `RET` take off it, is the word at the stack pointer. -/
theorem words_low_byte_first :
    (∀ (m : Memory) (a : UInt16),
      (m.readWord a).toNat = (m.read a).toNat + 256 * (m.read (a + 1)).toNat) ∧
    (∀ (m m' : Machine) (w : UInt16),
      Machine.pop.on m = (.ok w, m') → w = m.mem.readWord m.regs.sp) ∧
    (∀ (m m' : Machine) (w : UInt16), (Machine.push w).on m = (.ok (), m') →
      m'.mem = m.mem.writeWord m'.regs.sp w ∧ m'.mem.readWord m'.regs.sp = w) ∧
    ∀ c : Cpu, c.isHalted = false → c.step.isHalted = false →
      let op := c.mem.read c.regs.pc
      let nn := c.mem.readWord (c.regs.pc + 1)
      let top := c.mem.readWord c.regs.sp
      let taken := Opcode.taken c.regs.flags op
      let c' := c.step
      (op = 0x08 → c'.mem = c.mem.writeWord nn c.regs.sp ∧ c'.mem.readWord nn = c.regs.sp) ∧
      (∀ pair, (op, pair) ∈ Opcode.wordLoads → c'.regs.getPair pair = nn) ∧
      (op = 0xFA → c'.regs.a = c.mem.read nn) ∧
      (op = 0xEA → c'.mem = c.mem.write nn c.regs.a) ∧
      (op.toNat ∈ Opcode.wordJumps ++ Opcode.calls → taken = true → c'.regs.pc = nn) ∧
      (∀ pair, (op, pair) ∈ Opcode.pushes →
        c'.mem.readWord c'.regs.sp = c.regs.getPair pair) ∧
      (op.toNat ∈ Opcode.calls ++ Opcode.restarts → taken = true →
        (c'.mem.readWord c'.regs.sp).toNat = c.regs.pc.toNat + Opcode.length op) ∧
      (∀ pair, (op, pair) ∈ Opcode.pops →
        c'.regs.getPair pair = if pair = .af then top / 16 * 16 else top) ∧
      (op.toNat ∈ Opcode.returns → taken = true → c'.regs.pc = top) := by
  refine ⟨Memory.toNat_readWord, fun m m' w hpop => (Machine.eq_of_on_pop hpop).2.1, ?_, ?_⟩
  · intro m m' w hpush
    obtain rfl := Machine.eq_of_on_push hpush
    exact ⟨m.mem_pushWord w, m.topWord_pushWord w⟩
  intro c h hs op nn top taken c'
  refine ⟨?_, fun pair => Cpu.getPair_step_of_wordLoad h hs, Cpu.a_step_of_loadAt h hs,
    Cpu.mem_step_of_storeAt h hs, Cpu.pc_step_of_wordTarget h hs,
    fun pair => Cpu.readWord_step_of_push h hs, ?_, fun pair => Cpu.getPair_step_of_pop h hs,
    Cpu.pc_step_of_return h hs⟩
  · intro hop
    have hmem : c'.mem = c.mem.writeWord nn c.regs.sp := Cpu.mem_step_of_storeSp h hs hop
    refine ⟨hmem, ?_⟩
    rw [hmem, Memory.readWord_writeWord]
  · intro hmem ht
    obtain ⟨-, htop⟩ := Cpu.step_of_pushing_call h hs hmem ht
    show c.step.topWord.toNat = _
    rw [htop, Cpu.toNat_nextPc_of_running h hs, Cpu.length_nextInstr]

/-- A processor that is about to store its stack pointer at an address. -/
def Cpu.storingSp (nn : UInt16) : Cpu :=
  ofMemory ((Memory.blank.write 0x0100 0x08).writeWord 0x0101 nn)

theorem Cpu.read_storingSp (nn : UInt16) :
    (storingSp nn).mem.read (storingSp nn).regs.pc = 0x08 := by
  show (Memory.writeWord _ 0x0101 nn).read 0x0100 = 0x08
  simp [Memory.writeWord, Memory.read_write]

theorem Cpu.isHalted_step_storingSp (nn : UInt16) : (storingSp nn).step.isHalted = false := by
  have hle : (0x0100 : UInt16).toNat + Opcode.length 0x08 ≤ 0xFFFF := by decide
  rw [isHalted_step rfl, cause?_eq (by rw [read_storingSp]; exact hle)]
  simp only [read_storingSp]
  rfl

/-- The stack pointer stored round the top of memory and over the instruction itself; a word pushed
and popped. -/
theorem words_low_byte_first_overlap :
    let m : Machine := { regs := .postBoot, mem := .blank, ime := false }
    let m' := m.pushWord 0xBEEF
    ((Cpu.storingSp 0xFFFF).step.isHalted = false ∧
      (Cpu.storingSp 0xFFFF).step.mem.readWord 0xFFFF = 0xFFFE) ∧
    ((Cpu.storingSp 0x0100).step.isHalted = false ∧
      (Cpu.storingSp 0x0100).step.mem.readWord 0x0100 = 0xFFFE) ∧
    ((Machine.push 0xBEEF).on m = (.ok (), m') ∧ m'.mem.readWord m'.regs.sp = 0xBEEF) ∧
    Machine.pop.on m' = (.ok m'.topWord, m'.dropWord) ∧ m'.topWord = 0xBEEF := by
  intro m m'
  obtain ⟨-, hpop, hpush, hstep⟩ := words_low_byte_first
  have hstored (nn : UInt16) : (Cpu.storingSp nn).step.mem.readWord nn = 0xFFFE := by
    obtain ⟨hstore, -⟩ := hstep (Cpu.storingSp nn) rfl (Cpu.isHalted_step_storingSp nn)
    -- The operand is the word behind the opcode before the step, also where it gets overwritten.
    have hnn : (Cpu.storingSp nn).mem.readWord ((Cpu.storingSp nn).regs.pc + 1) = nn :=
      Memory.readWord_writeWord ..
    have hword := (hstore (Cpu.read_storingSp nn)).2
    rwa [hnn] at hword
  have hpushed : (Machine.push 0xBEEF).on m = (.ok (), m') := Machine.on_push (by decide) _
  have hpopped : Machine.pop.on m' = (.ok m'.topWord, m'.dropWord) := Machine.on_pop (by decide)
  have hread : m'.mem.readWord m'.regs.sp = 0xBEEF := (hpush m m' 0xBEEF hpushed).2
  exact ⟨⟨Cpu.isHalted_step_storingSp _, hstored _⟩, ⟨Cpu.isHalted_step_storingSp _, hstored _⟩,
    ⟨hpushed, hread⟩, hpopped, (hpop m' _ _ hpopped).trans hread⟩

end Lr35902
