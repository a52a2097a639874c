import Lr35902.Proofs.Runs

/-!
# Operations on a processor

Everything a user of a processor may do to it, in any order. No operation leads out of the halt or
touches its record; an operation that halts the processor leaves a record with a reason. `Evolves`
says so for one operation, and as it is transitive, for any sequence of them (`halt_is_final`).
-/

namespace Lr35902

inductive Operation where
  | fetch
  | decode
  | step
  | run (limit : Nat)
  /-- Executes an opcode outside the instruction cycle. -/
  | invoke (page : OpcodePage) (opcode : UInt8)
  /-- Writes to registers, memory and the interrupt switch. -/
  | overwrite (m : Machine)

def Operation.apply (c : Cpu) : Operation → Cpu
  | .fetch => c.fetch
  | .decode => c.decode
  | .step => c.step
  | .run limit => (c.run (some limit)).2
  | .invoke page opcode => (c.invokeLogged page opcode).value.2
  | .overwrite m => { c with toMachine := m }

namespace Cpu

def after (c : Cpu) (ops : List Operation) : Cpu := ops.foldl Operation.apply c

variable {c c' c'' : Cpu}

theorem isHalted_of_status {s : Snapshot} (h : c.status = .halted s) : c.isHalted = true := by
  unfold isHalted haltRecord?
  rw [h]
  rfl

theorem status_of_haltRecord? {s : Snapshot} (h : c.haltRecord? = some s) :
    c.status = .halted s := by
  unfold haltRecord? at h
  split at h <;> cases h
  assumption

/-- What an operation may change: it may halt a running processor, for a reason, and it may count
instructions as long as the processor is not halted. -/
structure Evolves (c c' : Cpu) : Prop where
  status : c'.status = c.status ∨
    c.isHalted = false ∧ ∃ s, c'.status = .halted s ∧ s.reason.isSome = true
  executed : c.isHalted = true → c'.executed = c.executed
  /-- A new record shows a processor as it stood. -/
  captured : ∀ s, c'.status = .halted s →
    c.status = .halted s ∨ ∃ c₀ : Cpu, s = c₀.capture s.reason

namespace Evolves

theorem of_eq (hs : c'.status = c.status) (he : c'.executed = c.executed) : c.Evolves c' :=
  ⟨.inl hs, fun _ => he, fun _ h => .inl (hs.symm.trans h)⟩

theorem refl (c : Cpu) : c.Evolves c := of_eq rfl rfl

theorem status_of_halted (e : c.Evolves c') (h : c.isHalted = true) : c'.status = c.status := by
  rcases e.status with hs | ⟨hrun, -⟩
  · exact hs
  · rw [h] at hrun
    cases hrun

theorem trans (e₁ : c.Evolves c') (e₂ : c'.Evolves c'') : c.Evolves c'' where
  status := by
    rcases e₁.status with h₁ | ⟨hrun, s, hs, hreason⟩
    · rcases e₂.status with h₂ | ⟨hrun, s, hs, hreason⟩
      · exact .inl (h₂.trans h₁)
      · exact .inr ⟨(isHalted_congr h₁).symm.trans hrun, s, hs, hreason⟩
    · -- The first change was the halt, so the second keeps the record.
      have hs' := e₂.status_of_halted (isHalted_of_status hs)
      exact .inr ⟨hrun, s, hs'.trans hs, hreason⟩
  executed := by
    intro h
    have h' : c'.isHalted = true := by rw [isHalted_congr (e₁.status_of_halted h), h]
    exact (e₂.executed h').trans (e₁.executed h)
  captured := by
    intro s hs
    rcases e₂.captured s hs with h | hnew
    · exact e₁.captured s h
    · exact .inr hnew

end Evolves

theorem evolves_halt (c : Cpu) (reason : HaltReason) : c.Evolves (c.halt reason) := by
  cases h : c.isHalted with
  | true =>
    unfold halt
    rw [if_pos h]
    exact .refl c
  | false =>
    rw [halt_of_running h]
    refine ⟨.inr ⟨h, _, rfl, rfl⟩, fun _ => rfl, ?_⟩
    intro s hs
    cases hs
    exact .inr ⟨c, rfl⟩

theorem evolves_fail (c : Cpu) (fault : Fault) : c.Evolves (c.fail fault) := by
  cases fault with
  | unknownOpcode opcode address prefixed =>
    refine .trans ?_ (evolves_halt _ .unknownOpcode)
    exact .of_eq rfl rfl
  | pcOverflow | stackOverflow | stackUnderflow => exact evolves_halt c _

theorem evolves_attempt (c : Cpu) (i : Instr) : c.Evolves (c.attempt i).1 := by
  by_cases h : i.verdict c.regs = .completes
  · rw [attempt_of_completes h]
    exact .of_eq rfl rfl
  · rw [attempt_of_not_completes h]
    exact .refl c

theorem evolves_carry (c : Cpu) (i : Instr) : c.Evolves (c.carry i).1 := by
  unfold carry
  split
  · exact .trans (.of_eq (status_behind ..) (executed_behind ..)) (evolves_attempt _ _)
  · exact .of_eq rfl rfl

theorem evolves_settle (c : Cpu) (v : Verdict) : c.Evolves (v.settle c).value.2 := by
  cases v with
  | completes | fails => exact .refl c
  | halts reason => exact evolves_halt c reason

theorem evolves_settled (c : Cpu) (i : Instr) : c.Evolves (c.settled i).value.2 :=
  (evolves_attempt c i).trans (evolves_settle _ _)

theorem evolves_carried (c : Cpu) (i : Instr) : c.Evolves (c.carried i).value.2 :=
  (evolves_carry c i).trans (evolves_settle _ _)

/-! ### Operations -/

theorem evolves_fetch (c : Cpu) : c.Evolves c.fetch := by
  unfold fetch
  cases h : c.isHalted with
  | true =>
    rw [fetchLogged_of_halted h]
    exact .refl c
  | false =>
    rcases Nat.lt_or_ge c.regs.pc.toNat 0xFFFF with hpc | hpc
    · rw [fetchLogged_of_lt h hpc]
      exact .of_eq rfl rfl
    · have hlast := Nat.le_antisymm (Nat.le_of_lt_succ c.regs.pc.toNat_lt) hpc
      rw [fetchLogged_of_last h hlast]
      have hconsumed : c.Evolves c.consumed := .of_eq rfl rfl
      exact hconsumed.trans (evolves_halt ..)

theorem evolves_decode (c : Cpu) : c.Evolves c.decode := by
  unfold decode
  cases h : c.isHalted with
  | true =>
    rw [decodeLogged_of_halted h]
    exact .refl c
  | false =>
    rw [decodeLogged_of_running h]
    have e : c.Evolves (c.dispatch c.opcode).1 := evolves_carry c _
    generalize c.dispatch c.opcode = result at e
    obtain ⟨c', verdict⟩ := result
    cases verdict with
    | completes =>
      exact ⟨e.status, fun hh => absurd (h.symm.trans hh) Bool.false_ne_true, e.captured⟩
    | halts reason => exact e.trans (evolves_halt c' reason)
    | fails fault => exact e.trans (evolves_fail c' fault)

theorem evolves_step (c : Cpu) : c.Evolves c.step := by
  rw [step_eq]
  exact (evolves_fetch c).trans (evolves_decode c.fetch)

theorem evolves_iterate (c : Cpu) (n : Nat) : c.Evolves (step^[n] c) := by
  induction n with
  | zero => exact .refl c
  | succ n ih =>
    rw [Function.iterate_succ_apply']
    exact ih.trans (evolves_step _)

theorem evolves_invoke (page : OpcodePage) (opcode : UInt8) (c : Cpu) :
    c.Evolves (c.invokeLogged page opcode).value.2 := by
  rw [invokeLogged_eq]
  cases page with
  | base => exact evolves_carried c _
  | cb => exact evolves_settled c _

theorem evolves_apply (c : Cpu) (op : Operation) : c.Evolves (op.apply c) := by
  cases op with
  | fetch => exact evolves_fetch c
  | decode => exact evolves_decode c
  | step => exact evolves_step c
  | run limit =>
    show c.Evolves (c.run (some limit)).2
    rw [run_some]
    exact evolves_iterate c limit
  | invoke page opcode => exact evolves_invoke page opcode c
  | overwrite m => exact .of_eq rfl rfl

theorem evolves_after (c : Cpu) (ops : List Operation) : c.Evolves (c.after ops) := by
  induction ops generalizing c with
  | nil => exact .refl c
  | cons op ops ih => exact (evolves_apply c op).trans (ih (op.apply c))

/-! ### The halted processor -/

theorem haltRecord?_of_evolves (e : c.Evolves c') (h : c.isHalted = true) :
    c'.haltRecord? = c.haltRecord? := by
  unfold haltRecord?
  rw [e.status_of_halted h]

theorem snapshot_of_halted {s : Snapshot} (h : c.haltRecord? = some s) : c.snapshot = s := by
  unfold snapshot
  rw [h]
  rfl

/-- Whatever has been done to a fresh processor: if it is running, its snapshot has no reason; if it
is halted, there is a record, with a reason, and nothing that is done from then on changes the
record, the snapshot or the counter, let alone makes the processor run. -/
theorem halt_is_final (ops : List Operation) :
    let c := fresh.after ops
    (c.isHalted = true ↔ ∃ s, c.haltRecord? = some s) ∧
    (∀ s, c.haltRecord? = some s → ∃ reason, s.reason = some reason) ∧
    (c.isHalted = false → c.snapshot.reason = none) ∧
    (c.isHalted = true → ∀ later : List Operation,
      let c' := c.after later
      c'.isHalted = true ∧ c'.haltRecord? = some c.snapshot ∧ c'.snapshot = c.snapshot ∧
        c'.executed = c.executed ∧ c'.fetch = c' ∧ c'.decode = c' ∧ c'.step = c' ∧
        ∀ limit, c'.EndsAfter limit c'.executed 0 (.halted c.snapshot, c') ∧
          c'.run limit = (.halted c.snapshot, c')) := by
  intro c
  have hsome : c.isHalted = true ↔ ∃ s, c.haltRecord? = some s := Option.isSome_iff_exists
  refine ⟨hsome, ?_, ?_, ?_⟩
  · intro s hs
    have hrecord : c.status = .halted s := by
      unfold haltRecord? at hs
      split at hs <;> cases hs
      assumption
    -- The fresh processor is running, so one of the operations halted it.
    rcases (evolves_after fresh ops).status with hrun | ⟨-, s', hs', hreason⟩
    · cases hrecord.symm.trans hrun
    · cases hrecord.symm.trans hs'
      exact Option.isSome_iff_exists.mp hreason
  · intro hrun
    have hnone : c.haltRecord? = none := by
      unfold isHalted at hrun
      simpa using hrun
    unfold snapshot
    rw [hnone]
    rfl
  · intro h later c'
    obtain ⟨s, hs⟩ := hsome.mp h
    have e := evolves_after c later
    have hs' : c'.haltRecord? = some s := (haltRecord?_of_evolves e h).trans hs
    have h' : c'.isHalted = true := Option.isSome_iff_exists.mpr ⟨s, hs'⟩
    have hsnap : c'.snapshot = c.snapshot :=
      (snapshot_of_halted hs').trans (snapshot_of_halted hs).symm
    refine ⟨h', by rw [hs', snapshot_of_halted hs], hsnap, e.executed h, ?_, ?_,
      step_of_halted h', ?_⟩
    · exact congrArg Logged.value (fetchLogged_of_halted h')
    · exact congrArg Logged.value (decodeLogged_of_halted h')
    · intro limit
      have hrun : c'.EndsAfter limit c'.executed 0 (.halted c.snapshot, c') := by
        rw [← hsnap]
        exact .here (round_of_halted h')
      exact ⟨hrun, hrun.run_eq⟩

/-- `STOP` halts the processor; executing other opcodes by hand moves its registers and marks its
opcode register, and neither shows in its snapshot. -/
theorem halt_is_final_stop :
    let c := fresh.after [.overwrite (started [0x10, 0x00, 0xD3]).toMachine, .step]
    c.isHalted = true ∧
      (c.after [.invoke .base 0x3C, .invoke .base 0x76, .invoke .base 0xCB]).prefixed = true ∧
      (c.after [.invoke .base 0x3C, .invoke .base 0x76, .invoke .base 0xCB]).snapshot =
        c.snapshot := by
  intro c
  have h : c.isHalted = true := by decide +kernel
  obtain ⟨-, -, hsnap, -⟩ :=
    (halt_is_final [.overwrite (started [0x10, 0x00, 0xD3]).toMachine, .step]).2.2.2 h
      [.invoke .base 0x3C, .invoke .base 0x76, .invoke .base 0xCB]
  exact ⟨h, by decide +kernel, hsnap⟩

end Cpu

end Lr35902
