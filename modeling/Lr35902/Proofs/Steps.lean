import Mathlib.Logic.Function.Iterate
import Lr35902.Proofs.Halting

/-!
# Steps in a row

The processor after a number of steps. Once halted it stays as it is, so the halt happens in one
particular step (`exists_halting_step`); every step before that one completes an instruction
(`executed_iterate`).
-/

namespace Lr35902.Cpu

variable {c : Cpu} {m n : Nat}

/-- A step that halts the processor leaves it behind the instruction, with a record. -/
theorem step_eq_of_cause {reason : HaltReason} (h : c.isHalted = false)
    (hc : c.cause? = some reason) :
    c.step = { c.consumed with status := .halted (c.consumed.capture (some reason)) } := by
  rw [step_of_cause h hc, halt_of_running (c := c.consumed) h]

theorem step_of_halted (h : c.isHalted = true) : c.step = c :=
  congrArg Logged.value (stepLogged_of_halted h)

theorem iterate_of_halted (h : c.isHalted = true) (n : Nat) : step^[n] c = c :=
  Function.iterate_fixed (step_of_halted h) n

theorem iterate_eq_of_le (h : (step^[m] c).isHalted = true) (hmn : m ≤ n) :
    step^[n] c = step^[m] c := by
  obtain ⟨k, rfl⟩ := Nat.exists_eq_add_of_le' hmn
  rw [Function.iterate_add_apply, iterate_of_halted h]

theorem running_of_le (h : (step^[n] c).isHalted = false) (hmn : m ≤ n) :
    (step^[m] c).isHalted = false := by
  cases hm : (step^[m] c).isHalted with
  | false => rfl
  | true =>
    rw [iterate_eq_of_le hm hmn, hm] at h
    exact h

/-- A processor that halts within some steps halts in one of them, and the rest changes nothing. -/
theorem exists_halting_step (h : c.isHalted = false) (hn : (step^[n] c).isHalted = true) :
    ∃ k < n, (step^[k] c).isHalted = false ∧ step^[n] c = (step^[k] c).step := by
  induction n with
  | zero =>
    rw [Function.iterate_zero_apply, h] at hn
    cases hn
  | succ n ih =>
    -- Either the last of the steps is the one, or it comes too late to change anything.
    cases hlast : (step^[n] c).isHalted with
    | false => exact ⟨n, Nat.lt_succ_self n, hlast, Function.iterate_succ_apply' ..⟩
    | true =>
      obtain ⟨k, hk, hrun, heq⟩ := ih hlast
      exact ⟨k, Nat.lt_succ_of_lt hk, hrun, (iterate_eq_of_le hlast (Nat.le_succ n)).trans heq⟩

theorem executed_step_of_cause {reason : HaltReason} (h : c.isHalted = false)
    (hc : c.cause? = some reason) : c.step.executed = c.executed := by
  rw [step_eq_of_cause h hc]
  rfl

theorem executed_step (h : c.isHalted = false) :
    c.step.executed = c.executed + (if c.step.isHalted then 0 else 1) := by
  rw [isHalted_step h]
  cases hc : c.cause? with
  | none => exact executed_step_of_no_cause h hc
  | some reason => exact executed_step_of_cause h hc

/-- As long as the processor is running, every step completes an instruction. -/
theorem executed_iterate (h : (step^[n] c).isHalted = false) :
    (step^[n] c).executed = c.executed + n := by
  induction n with
  | zero => rfl
  | succ n ih =>
    have hn := running_of_le h (Nat.le_succ n)
    rw [Function.iterate_succ_apply'] at h ⊢
    rw [executed_step hn, h, ih hn]
    rfl

theorem executed_iterate_le (c : Cpu) (n : Nat) : (step^[n] c).executed ≤ c.executed + n := by
  induction n with
  | zero => exact Nat.le_refl _
  | succ n ih =>
    rw [Function.iterate_succ_apply']
    cases hn : (step^[n] c).isHalted with
    | true =>
      rw [step_of_halted hn]
      omega
    | false =>
      rw [executed_step hn]
      split <;> omega

/-- A fresh processor with a program at its program counter. -/
def started (program : List UInt8) : Cpu := ofMemory (Memory.blank.loadAt 0x0100 program)

end Lr35902.Cpu
