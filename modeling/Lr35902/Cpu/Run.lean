import Lr35902.Cpu.Cycle

/-!
# Runs

Stepping until the processor halts or has completed as many instructions as a limit allows. The
limit is compared with the counter of completed instructions, which the halting instruction does
not move. A run without a limit ends only with a halt.
-/

namespace Lr35902

/-- How a run ended. -/
inductive RunOutcome where
  | halted (record : Snapshot)
  | budgetExhausted (executed : Nat)
  deriving DecidableEq, Repr

namespace Cpu

/-- Whether the instructions completed since the counter stood at `start` use up the limit. -/
def exhausts (c : Cpu) (limit : Option Nat) (start : Nat) : Bool :=
  limit.any fun n => n ≤ c.executed - start

/-- One round of a run that began when the counter stood at `start`: how the run ends, or the
processor one step further. -/
def round (limit : Option Nat) (start : Nat) (c : Cpu) : Cpu ⊕ RunOutcome × Cpu :=
  if c.isHalted then .inr (.halted c.snapshot, c)
  else if c.exhausts limit start then .inr (.budgetExhausted (c.executed - start), c)
  else .inl c.step

-- For `repeatM`: a loop that never ends has some value, of which nothing is known.
instance : Nonempty (RunOutcome × Cpu) := ⟨.budgetExhausted 0, fresh⟩

/-- Goes round until the run ends. -/
def finish (limit : Option Nat) (start : Nat) (c : Cpu) : RunOutcome × Cpu :=
  Id.run (repeatM (fun c => pure (c.round limit start)) c)

/-- Runs to the halt, or until as many instructions have been completed as the limit allows. -/
def run (limit : Option Nat) (c : Cpu) : RunOutcome × Cpu :=
  c.finish limit c.executed

/-- What `n` steps report. -/
def events : Nat → Cpu → List Event
  | 0, _ => []
  | n + 1, c => if c.isHalted then [] else c.stepLogged.events ++ events n c.step

/-- How many steps lie between a processor and the same one later: one for each instruction
completed and one more if it has halted on the way. -/
def stepsUntil (c later : Cpu) : Nat :=
  later.executed - c.executed + (if c.isHalted then 0 else later.isHalted.toNat)

def runEvents (limit : Option Nat) (c : Cpu) : List Event :=
  c.events (c.stepsUntil (c.run limit).2)

end Cpu

end Lr35902
