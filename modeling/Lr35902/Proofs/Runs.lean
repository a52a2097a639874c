import Lr35902.Proofs.Steps

/-!
# Runs are steps in a row

`EndsAfter` is the loop as a relation: so many rounds that go on, then one that ends it. A run with
limit `n` ends where `n` steps end (`run_some`): the counter it watches and the number of its steps
differ only by the halting instruction, and the run ends with that one. A run without a limit ends
in the first halted state, if there is one (`run_none`).
-/

namespace Lr35902.Cpu

variable {c : Cpu} {limit : Option Nat} {start n r k : Nat} {e : RunOutcome × Cpu}

/-- How a run of `n` steps has ended that ended here. -/
def outcome (n : Nat) (c : Cpu) : RunOutcome :=
  if c.isHalted then .halted c.snapshot else .budgetExhausted n

theorem outcome_of_halted (h : c.isHalted = true) (n : Nat) : c.outcome n = .halted c.snapshot :=
  if_pos h

theorem outcome_of_running (h : c.isHalted = false) (n : Nat) :
    c.outcome n = .budgetExhausted n := by
  unfold outcome
  rw [h]
  rfl

/-! ### One round of the loop -/

theorem exhausts_some : c.exhausts (some n) start = decide (n ≤ c.executed - start) := rfl

theorem exhausts_none : c.exhausts none start = false := rfl

theorem round_of_halted (h : c.isHalted = true) :
    c.round limit start = .inr (.halted c.snapshot, c) := by
  unfold round
  rw [if_pos h]

theorem round_of_exhausts (h : c.isHalted = false) (he : c.exhausts limit start = true) :
    c.round limit start = .inr (.budgetExhausted (c.executed - start), c) := by
  unfold round
  rw [h, he]
  rfl

theorem round_of_running (h : c.isHalted = false) (he : c.exhausts limit start = false) :
    c.round limit start = .inl c.step := by
  unfold round
  rw [h, he]
  rfl

theorem finish_eq (limit : Option Nat) (start : Nat) (c : Cpu) :
    c.finish limit start =
      match c.round limit start with
      | .inl c' => c'.finish limit start
      | .inr e => e := by
  unfold finish
  rw [repeatM_eq_of_monadTail]
  simp only [repeatM.body, pure_bind]
  cases c.round limit start with
  | inl c' => rfl
  | inr e => rfl

/-! ### The whole loop -/

/-- The loop ends with `e` in the round after `k` that go on. -/
inductive EndsAfter (limit : Option Nat) (start : Nat) : Nat → Cpu → RunOutcome × Cpu → Prop where
  | here {c : Cpu} {e : RunOutcome × Cpu} : c.round limit start = .inr e →
      EndsAfter limit start 0 c e
  | later {k : Nat} {c c' : Cpu} {e : RunOutcome × Cpu} : c.round limit start = .inl c' →
      EndsAfter limit start k c' e → EndsAfter limit start (k + 1) c e

theorem EndsAfter.finish_eq (h : c.EndsAfter limit start k e) : c.finish limit start = e := by
  induction h with
  | here h => rw [Cpu.finish_eq, h]
  | later h _ ih =>
    rw [Cpu.finish_eq, h]
    exact ih

theorem EndsAfter.snd_eq (h : c.EndsAfter limit start k e) : e.2 = step^[k] c := by
  induction h with
  | here h =>
    unfold round at h
    split at h
    · cases h
      rfl
    · split at h <;> cases h
      rfl
  | later h _ ih =>
    rw [ih, Function.iterate_succ_apply]
    unfold round at h
    split at h
    · cases h
    · split at h <;> cases h
      rfl

theorem EndsAfter.record_eq {record : Snapshot} (h : c.EndsAfter limit start k e)
    (he : e.1 = .halted record) : record = e.2.snapshot := by
  induction h with
  | here h =>
    unfold round at h
    split at h
    · cases h
      cases he
      rfl
    · split at h <;> cases h
      cases he
  | later _ _ ih => exact ih he

theorem EndsAfter.run_eq (h : c.EndsAfter limit c.executed k e) : c.run limit = e := h.finish_eq

theorem endsAfter_of_halted (h : c.isHalted = true) (r : Nat) :
    c.EndsAfter limit start 0 ((step^[r] c).outcome n, step^[r] c) := by
  rw [iterate_of_halted h, outcome_of_halted h]
  exact .here (round_of_halted h)

/-- With `r` instructions left to the limit, the loop ends after no more than `r` rounds, where `r`
steps lead. -/
theorem endsAfter_some (hstart : start ≤ c.executed) (hr : start + n = c.executed + r) :
    ∃ k ≤ r, c.EndsAfter (some n) start k ((step^[r] c).outcome n, step^[r] c) := by
  induction r generalizing c with
  | zero =>
    refine ⟨0, Nat.le_refl 0, ?_⟩
    cases h : c.isHalted with
    | true => exact endsAfter_of_halted h 0
    | false =>
      have hn : c.executed - start = n := by omega
      have he : c.exhausts (some n) start = true := by
        rw [exhausts_some, hn]
        exact decide_eq_true (Nat.le_refl n)
      have hround := round_of_exhausts h he
      rw [hn] at hround
      rw [Function.iterate_zero_apply, outcome_of_running h]
      exact .here hround
  | succ r ih =>
    cases h : c.isHalted with
    | true => exact ⟨0, Nat.zero_le _, endsAfter_of_halted h (r + 1)⟩
    | false =>
      have he : c.exhausts (some n) start = false := by
        rw [exhausts_some]
        exact decide_eq_false (by omega)
      have hround := round_of_running h he
      rw [Function.iterate_succ_apply]
      -- A step that completes its instruction takes one off what is left. One that halts does not
      -- move the counter, but then the loop is over.
      have hcount := executed_step h
      cases hs : c.step.isHalted with
      | true => exact ⟨1, by omega, .later hround (endsAfter_of_halted hs r)⟩
      | false =>
        rw [hs] at hcount
        simp only [Bool.false_eq_true, ↓reduceIte] at hcount
        obtain ⟨k, hk, hrest⟩ := ih (c := c.step) (by omega) (by omega)
        exact ⟨k + 1, Nat.succ_le_succ hk, .later hround hrest⟩

theorem endsAfter_none (hk : (step^[k] c).isHalted = true) :
    ∃ j ≤ k, c.EndsAfter none start j (.halted (step^[k] c).snapshot, step^[k] c) := by
  induction k generalizing c with
  | zero => exact ⟨0, Nat.le_refl 0, .here (round_of_halted hk)⟩
  | succ k ih =>
    cases h : c.isHalted with
    | true =>
      rw [iterate_of_halted h]
      exact ⟨0, Nat.zero_le _, .here (round_of_halted h)⟩
    | false =>
      rw [Function.iterate_succ_apply] at hk ⊢
      obtain ⟨j, hj, hrest⟩ := ih hk
      exact ⟨j + 1, Nat.succ_le_succ hj, .later (round_of_running h exhausts_none) hrest⟩

theorem run_some (c : Cpu) (n : Nat) : c.run (some n) = ((step^[n] c).outcome n, step^[n] c) := by
  obtain ⟨k, -, h⟩ := endsAfter_some (c := c) (n := n) (Nat.le_refl c.executed) rfl
  exact h.run_eq

theorem run_none (hk : (step^[k] c).isHalted = true) :
    c.run none = (.halted (step^[k] c).snapshot, step^[k] c) := by
  have ⟨j, _, h⟩ : ∃ j ≤ k, c.EndsAfter none c.executed j _ := endsAfter_none hk
  exact h.run_eq

theorem exists_endsAfter_run (h : limit = none → ∃ k, (step^[k] c).isHalted = true) :
    ∃ k, c.EndsAfter limit c.executed k (c.run limit) := by
  cases limit with
  | some n =>
    obtain ⟨k, -, hends⟩ := endsAfter_some (c := c) (n := n) (Nat.le_refl c.executed) rfl
    exact ⟨k, run_some c n ▸ hends⟩
  | none =>
    obtain ⟨k, hk⟩ := h rfl
    have ⟨j, _, hends⟩ : ∃ j ≤ k, c.EndsAfter none c.executed j _ := endsAfter_none hk
    exact ⟨j, run_none hk ▸ hends⟩

/-- The counter after the halt leaves out the halting instruction. -/
theorem executed_of_first_halt (hpos : 1 ≤ k) (hk : (step^[k] c).isHalted = true)
    (hlast : (step^[k - 1] c).isHalted = false) :
    (step^[k] c).executed = c.executed + (k - 1) := by
  obtain ⟨j, rfl⟩ := Nat.exists_eq_add_of_le' hpos
  rw [Nat.add_sub_cancel] at hlast ⊢
  rw [Function.iterate_succ_apply'] at hk ⊢
  rw [executed_step hlast, hk, executed_iterate hlast]
  rfl

/-- A run always ends within its limit and stands where as many steps lead; runs add up, and the
counter moves by no more than the limit, so that it keeps to its 64 bits if there is room for the
limit in them. If the processor halts, a run that may go as far as the
halt ends with it, and one that may go only to the instruction before does not see it. -/
theorem run_eq_iterate (c : Cpu) :
    (∀ n, (∃ k ≤ n, c.EndsAfter (some n) c.executed k (c.run (some n))) ∧
      c.run (some n) =
        (if (step^[n] c).isHalted then .halted (step^[n] c).snapshot else .budgetExhausted n,
          step^[n] c) ∧
      (step^[n] c).executed ≤ c.executed + n ∧
      (c.executed + n < UInt64.size → ∀ k ≤ n, (step^[k] c).executed < UInt64.size)) ∧
    (∀ m n, ((c.run (some m)).2.run (some n)).2 = (c.run (some (m + n))).2) ∧
    ∀ k, 1 ≤ k → (step^[k] c).isHalted = true → (∀ j < k, (step^[j] c).isHalted = false) →
      (∃ j ≤ k, c.EndsAfter none c.executed j (c.run none)) ∧
      c.run none = (.halted (step^[k] c).snapshot, step^[k] c) ∧
      (∀ n ≥ k, c.run (some n) = (.halted (step^[k] c).snapshot, step^[k] c)) ∧
      (step^[k] c).executed = c.executed + (k - 1) ∧
      c.run (some (k - 1)) = (.budgetExhausted (k - 1), step^[k - 1] c) ∧
      (step^[k - 1] c).isHalted = false := by
  refine ⟨fun n => ⟨?_, run_some c n, executed_iterate_le c n, ?_⟩, ?_, ?_⟩
  · rw [run_some]
    exact endsAfter_some (Nat.le_refl _) rfl
  · intro hroom k hk
    have hle := executed_iterate_le c k
    omega
  · intro m n
    rw [run_some, run_some, run_some, Nat.add_comm, Function.iterate_add_apply]
  · intro k hpos hk hfirst
    have hlast := hfirst (k - 1) (by omega)
    refine ⟨?_, run_none hk, ?_, executed_of_first_halt hpos hk hlast, ?_, hlast⟩
    · rw [run_none hk]
      exact endsAfter_none hk
    · intro n hn
      rw [run_some, iterate_eq_of_le hk hn, outcome_of_halted hk]
    · rw [run_some, outcome_of_running hlast]

/-- `NOP` and `HALT`: a limit of one instruction is used up just before the halt. -/
theorem run_eq_iterate_nop_halt :
    let c := started [0x00, 0x76]
    (step^[2] c).isHalted = true ∧ c.run (some 1) = (.budgetExhausted 1, step^[1] c) ∧
      c.run none = (.halted (step^[2] c).snapshot, step^[2] c) := by
  intro c
  have hk : (step^[2] c).isHalted = true := by decide +kernel
  have hfirst : ∀ j < 2, (step^[j] c).isHalted = false := by decide +kernel
  obtain ⟨-, hnone, -, -, hshort, -⟩ := (run_eq_iterate c).2.2 2 (by decide) hk hfirst
  exact ⟨hk, hshort, hnone⟩

end Lr35902.Cpu
