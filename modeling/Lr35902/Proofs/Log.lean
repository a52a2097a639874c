import Lr35902.Proofs.Runs

/-!
# The log of a run

What the steps of a run report, one after the other: an entry for every instruction that the
processor sets about executing, and behind the entries, if it halts, one report of the halt
(`log_of_run`). An opcode at the last address is fetched but not entered.
-/

namespace Lr35902

/-- The reason in a report of the halt. -/
def Event.haltReason? : Event → Option HaltReason
  | .haltedByFault fault => some fault.reason
  | .haltedByInstruction reason _ => some reason
  | _ => none

theorem Event.line_of_halt {e : Event} {reason : HaltReason} (h : e.haltReason? = some reason) :
    ∃ text, e.line = "ERROR cpu halted " ++ text := by
  cases e with
  | haltedByFault fault =>
    refine ⟨"err=" ++ fault.message, ?_⟩
    rw [← String.append_assoc]
    rfl
  | haltedByInstruction reason pc =>
    refine ⟨"reason=" ++ reason.name ++ " pc=" ++ Numeral.word pc, ?_⟩
    simp only [← String.append_assoc]
    rfl
  | _ => cases h

/-- The event reports the halt of which the snapshot is the record. -/
def Event.ReportsHalt (e : Event) (s : Snapshot) : Prop :=
  e.haltReason? = s.reason ∧ ∃ text, e.line = "ERROR cpu halted " ++ text

theorem Event.reportsHalt {e : Event} {s : Snapshot} {reason : HaltReason}
    (he : e.haltReason? = some reason) (hs : s.reason = some reason) : e.ReportsHalt s :=
  ⟨he.trans hs.symm, line_of_halt he⟩

namespace Cpu

variable {c : Cpu} {k n : Nat}

/-- The entry of the instruction at the program counter. -/
def entry (c : Cpu) : Event :=
  .execute c.regs.pc (c.mem.read c.regs.pc) c.regs.a c.regs.flags.toByte

theorem line_entry (c : Cpu) : ∃ text, c.entry.line = "TRACE execute " ++ text := by
  refine ⟨"pc=" ++ Numeral.word c.regs.pc ++ " opcode=" ++ Numeral.byte (c.mem.read c.regs.pc) ++
    " a=" ++ Numeral.byte c.regs.a ++ " f=" ++ Numeral.byte c.regs.flags.toByte, ?_⟩
  simp only [← String.append_assoc]
  rfl

/-- Whether the next step sets about executing an instruction. -/
def enters (c : Cpu) : Bool := !c.fetch.isHalted

/-- Whether the processor has halted elsewhere than at the last address. -/
def haltedInside (c : Cpu) : Bool := c.haltRecord?.any (·.opcodeAddress != 0xFFFF)

theorem enters_of_halted (h : c.isHalted = true) : c.enters = false := by
  unfold enters fetch
  rw [fetchLogged_of_halted h, h]
  rfl

theorem enters_of_lt (h : c.isHalted = false) (hpc : c.regs.pc.toNat < 0xFFFF) :
    c.enters = true := by
  have hf : c.fetched.isHalted = false := h
  unfold enters fetch
  rw [fetchLogged_of_lt h hpc, hf]
  rfl

theorem enters_of_last (h : c.isHalted = false) (hpc : c.regs.pc.toNat = 0xFFFF) :
    c.enters = false := by
  unfold enters fetch
  rw [fetchLogged_of_last h hpc, isHalted_halt]
  rfl

theorem events_step_of_lt (h : c.isHalted = false) (hpc : c.regs.pc.toNat < 0xFFFF) :
    c.stepLogged.events = c.fetched.decodeLogged.events := by
  rw [stepLogged, Logged.events_andThen, fetchLogged_of_lt h hpc, List.nil_append]

theorem events_step_of_no_cause (h : c.isHalted = false) (hc : c.cause? = none) :
    c.enters = true ∧ c.stepLogged.events = [c.entry] := by
  have hpc := lt_of_no_cause hc
  refine ⟨enters_of_lt h hpc, ?_⟩
  rw [events_step_of_lt h hpc, decodeLogged_of_running (c := c.fetched) h, dispatch_of_no_cause hc]
  rfl

/-- The step that halts the processor reports the halt, last of all. -/
theorem events_step_of_cause {reason : HaltReason} (h : c.isHalted = false)
    (hc : c.cause? = some reason) :
    ∃ e, e.haltReason? = some reason ∧
      c.stepLogged.events = (if c.enters then [c.entry] else []) ++ [e] := by
  rcases Nat.lt_or_ge c.regs.pc.toNat 0xFFFF with hpc | hpc
  · obtain ⟨v, hdispatch, hreason, -⟩ := dispatch_of_cause hc hpc
    rw [events_step_of_lt h hpc, decodeLogged_of_running (c := c.fetched) h, hdispatch,
      enters_of_lt h hpc]
    cases v with
    | completes => cases hreason
    | halts r => exact ⟨.haltedByInstruction r c.consumed.regs.pc, hreason, rfl⟩
    | fails fault => exact ⟨.haltedByFault fault, hreason, rfl⟩
  · have := c.regs.pc.toNat_lt
    have hlast : c.regs.pc.toNat = 0xFFFF := by omega
    cases hc.symm.trans (cause?_of_last hlast)
    refine ⟨.haltedByFault (.pcOverflow 0xFFFF), rfl, ?_⟩
    rw [stepLogged, Logged.events_andThen, fetchLogged_of_last h hlast,
      decodeLogged_of_halted (isHalted_halt ..), enters_of_last h hlast]
    rfl

/-- What a step reports: the entry of an instruction, if it comes to that, and the halt, if the
step brings it about. -/
theorem events_step (h : c.isHalted = false) :
    ∃ last, c.stepLogged.events = (if c.enters then [c.entry] else []) ++ last ∧
      (c.step.isHalted = false → last = []) ∧
      ∀ s, c.step.haltRecord? = some s → ∃ e, last = [e] ∧ e.ReportsHalt s := by
  cases hc : c.cause? with
  | none =>
    obtain ⟨henters, hevents⟩ := events_step_of_no_cause h hc
    refine ⟨[], by rw [hevents, henters]; rfl, fun _ => rfl, ?_⟩
    intro s hs
    have hrun : c.step.isHalted = false := by rw [isHalted_step h, hc]; rfl
    rw [isHalted, hs] at hrun
    cases hrun
  | some reason =>
    obtain ⟨e, he, hevents⟩ := events_step_of_cause h hc
    refine ⟨[e], hevents, ?_, ?_⟩
    · intro hrun
      rw [isHalted_step h, hc] at hrun
      cases hrun
    · intro s hs
      cases (haltRecord?_step_of_cause h hc).symm.trans hs
      exact ⟨e, rfl, Event.reportsHalt he rfl⟩

/-- A step that enters an instruction either counts it or halts inside memory. -/
theorem executed_add_enters (h : c.isHalted = false) :
    c.executed + c.enters.toNat = c.step.executed + c.step.haltedInside.toNat := by
  cases hc : c.cause? with
  | none =>
    have hrecord : c.step.haltRecord? = none := by
      have hrun : c.step.isHalted = false := by rw [isHalted_step h, hc]; rfl
      simpa [isHalted] using hrun
    rw [executed_step_of_no_cause h hc, enters_of_lt h (lt_of_no_cause hc), haltedInside, hrecord]
    rfl
  | some reason =>
    rw [executed_step_of_cause h hc, haltedInside, haltRecord?_step_of_cause h hc]
    show _ = c.executed + (c.regs.pc != 0xFFFF).toNat
    rcases Nat.lt_or_ge c.regs.pc.toNat 0xFFFF with hpc | hpc
    · have hne : c.regs.pc ≠ 0xFFFF := fun heq => absurd hpc (by rw [heq]; decide)
      rw [enters_of_lt h hpc, bne_iff_ne.mpr hne]
    · have := c.regs.pc.toNat_lt
      have hlast : c.regs.pc.toNat = 0xFFFF := by omega
      have heq : c.regs.pc = 0xFFFF := UInt16.toNat_inj.mp hlast
      rw [enters_of_last h hlast, heq]
      rfl

/-! ### Any number of steps -/

theorem events_of_halted (h : c.isHalted = true) (n : Nat) : c.events n = [] := by
  cases n with
  | zero => rfl
  | succ n => exact if_pos h

theorem events_succ (n : Nat) (c : Cpu) :
    c.events (n + 1) = c.stepLogged.events ++ c.step.events n := by
  cases h : c.isHalted with
  | true =>
    rw [events_of_halted h, step_of_halted h, events_of_halted h, stepLogged_of_halted h]
    rfl
  | false => exact if_neg (by rw [h]; decide)

theorem events_add (m n : Nat) (c : Cpu) :
    c.events (m + n) = c.events m ++ (step^[m] c).events n := by
  induction m generalizing c with
  | zero =>
    rw [Nat.zero_add]
    rfl
  | succ m ih =>
    rw [Nat.add_right_comm, events_succ, ih, events_succ, List.append_assoc]
    rfl

theorem events_succ' (n : Nat) (c : Cpu) :
    c.events (n + 1) = c.events n ++ (step^[n] c).stepLogged.events := by
  rw [events_add, events_succ]
  exact congrArg (c.events n ++ ·) (List.append_nil _)

theorem events_eq_flatMap (n : Nat) (c : Cpu) :
    c.events n = (List.range n).flatMap fun k => (step^[k] c).stepLogged.events := by
  induction n with
  | zero => rfl
  | succ n ih => rw [events_succ', ih, List.range_succ, List.flatMap_append, List.flatMap_singleton]

/-- Those of the first `n` steps that enter an instruction. -/
def entering (n : Nat) (c : Cpu) : List Nat :=
  (List.range n).filter fun k => (step^[k] c).enters

theorem entering_succ (n : Nat) (c : Cpu) :
    c.entering (n + 1) = c.entering n ++ if (step^[n] c).enters then [n] else [] := by
  unfold entering
  rw [List.range_succ, List.filter_append]
  cases h : (step^[n] c).enters <;> simp [h]

theorem map_entering_succ (n : Nat) (c : Cpu) :
    (c.entering (n + 1)).map (fun k => (step^[k] c).entry) =
      (c.entering n).map (fun k => (step^[k] c).entry) ++
        if (step^[n] c).enters then [(step^[n] c).entry] else [] := by
  rw [entering_succ, List.map_append]
  split <;> rfl

/-- What `n` steps report: the entries, and behind them the halt. -/
theorem events_eq_entries (h : c.isHalted = false) (n : Nat) :
    ∃ last, c.events n = (c.entering n).map (fun k => (step^[k] c).entry) ++ last ∧
      ((step^[n] c).isHalted = false → last = []) ∧
      ∀ s, (step^[n] c).haltRecord? = some s → ∃ e, last = [e] ∧ e.ReportsHalt s := by
  induction n with
  | zero =>
    refine ⟨[], rfl, fun _ => rfl, ?_⟩
    intro s hs
    rw [isHalted, show c.haltRecord? = some s from hs] at h
    cases h
  | succ n ih =>
    obtain ⟨last, hevents, hrunning, hhalted⟩ := ih
    rw [events_succ', map_entering_succ, Function.iterate_succ_apply', hevents]
    cases hn : (step^[n] c).isHalted with
    | true =>
      -- Nothing is entered or reported any more.
      rw [stepLogged_of_halted hn, enters_of_halted hn, step_of_halted hn, hn]
      exact ⟨last, by simp, nofun, hhalted⟩
    | false =>
      rw [hrunning hn]
      obtain ⟨last', hstep, hrest⟩ := events_step hn
      rw [hstep, List.append_nil, ← List.append_assoc]
      exact ⟨last', rfl, hrest⟩

/-- Every instruction entered is either counted or the one that halted the processor. -/
theorem executed_add_entering (h : c.isHalted = false) (n : Nat) :
    c.executed + (c.entering n).length =
      (step^[n] c).executed + (step^[n] c).haltedInside.toNat := by
  induction n with
  | zero =>
    have hnone : c.haltRecord? = none := by simpa [isHalted] using h
    show c.executed + 0 = c.executed + c.haltedInside.toNat
    rw [haltedInside, hnone]
    rfl
  | succ n ih =>
    have hlen : (c.entering (n + 1)).length =
        (c.entering n).length + (step^[n] c).enters.toNat := by
      rw [entering_succ, List.length_append]
      cases (step^[n] c).enters <;> rfl
    rw [Function.iterate_succ_apply', hlen, ← Nat.add_assoc, ih]
    cases hn : (step^[n] c).isHalted with
    | true =>
      rw [step_of_halted hn, enters_of_halted hn]
      rfl
    | false =>
      have hnone : (step^[n] c).haltRecord? = none := by simpa [isHalted] using hn
      have hstep := executed_add_enters hn
      rw [haltedInside, hnone]
      exact hstep

/-! ### Runs -/

theorem events_of_iterate_eq (hk : k ≤ n) (h : step^[k] c = step^[n] c) :
    c.events k = c.events n := by
  obtain ⟨d, rfl⟩ := Nat.exists_eq_add_of_le hk
  rw [events_add]
  cases hrun : (step^[k] c).isHalted with
  | true => rw [events_of_halted hrun, List.append_nil]
  | false =>
    -- A processor that is running would have counted the other steps.
    have hcount := executed_iterate hrun
    rw [h] at hrun hcount
    obtain rfl : d = 0 := by
      have := executed_iterate hrun
      omega
    exact (List.append_nil _).symm

/-- The counter and the halt tell how many steps it takes. -/
theorem iterate_stepsUntil (c : Cpu) (n : Nat) :
    c.stepsUntil (step^[n] c) ≤ n ∧ step^[c.stepsUntil (step^[n] c)] c = step^[n] c := by
  unfold stepsUntil
  cases h : c.isHalted with
  | true => simp [iterate_of_halted h]
  | false =>
    cases hn : (step^[n] c).isHalted with
    | false => simp [executed_iterate hn]
    | true =>
      obtain ⟨k, hk, hrun, heq⟩ := exists_halting_step h hn
      have hsteps : (step^[n] c).executed - c.executed + 1 = k + 1 := by
        rw [heq, executed_step hrun, ← heq, hn, if_pos rfl, executed_iterate hrun]
        omega
      show (step^[n] c).executed - c.executed + 1 ≤ n ∧
        step^[(step^[n] c).executed - c.executed + 1] c = step^[n] c
      rw [hsteps, Function.iterate_succ_apply']
      exact ⟨hk, heq.symm⟩

theorem runEvents_some (c : Cpu) (n : Nat) : c.runEvents (some n) = c.events n := by
  obtain ⟨hle, heq⟩ := iterate_stepsUntil c n
  unfold runEvents
  rw [run_some]
  exact events_of_iterate_eq hle heq

/-- What a run with limit `n` reports is what its rounds report, one after the other, and what `n`
steps report: an entry for each instruction entered, in order, with the address, the opcode, `A`
and `F` that it is entered with, and then, if the processor has halted, one report of the halt and
nothing else. There are as many entries as instructions counted, and one more if the processor
halted elsewhere than at the last address. -/
theorem log_of_run (h : c.isHalted = false) (n : Nat) :
    (c.runEvents (some n) = (List.range n).flatMap fun k => (step^[k] c).stepLogged.events) ∧
    (∃ k ≤ n, c.EndsAfter (some n) c.executed k (c.run (some n)) ∧
      c.runEvents (some n) = (List.range k).flatMap fun j => (step^[j] c).stepLogged.events) ∧
    ∃ last,
      c.runEvents (some n) = (c.entering n).map (fun k => (step^[k] c).entry) ++ last ∧
      (∀ k, ∃ text, (step^[k] c).entry.line = "TRACE execute " ++ text) ∧
      ((step^[n] c).isHalted = false → last = []) ∧
      (∀ s, (step^[n] c).haltRecord? = some s → ∃ e, last = [e] ∧ e.ReportsHalt s) ∧
      c.executed + (c.entering n).length =
        (step^[n] c).executed + (step^[n] c).haltedInside.toNat := by
  rw [runEvents_some]
  refine ⟨events_eq_flatMap n c, ?_, ?_⟩
  · obtain ⟨k, hk, hends⟩ := endsAfter_some (c := c) (n := n) (Nat.le_refl c.executed) rfl
    rw [← run_some] at hends
    have hplace : step^[k] c = step^[n] c := by rw [← hends.snd_eq, run_some]
    exact ⟨k, hk, hends, by rw [← events_eq_flatMap, events_of_iterate_eq hk hplace]⟩
  · obtain ⟨last, hevents, hrunning, hhalted⟩ := events_eq_entries h n
    exact ⟨last, hevents, fun k => line_entry _, hrunning, hhalted, executed_add_entering h n⟩

/-- A two-byte instruction and `HALT`: two entries, and the report behind them. -/
theorem log_of_run_swap_halt :
    let c := started [0xCB, 0x37, 0x76]
    c.isHalted = false ∧ c.entering 4 = [0, 1] ∧
      ∃ last, c.runEvents (some 4) =
        [.execute 0x0100 0xCB 0x01 0xB0, .execute 0x0102 0x76 0x10 0x00] ++ last ∧
        ∃ e s, last = [e] ∧ e.ReportsHalt s ∧ s.reason = some .haltInstruction := by
  intro c
  have h : c.isHalted = false := rfl
  have ⟨hentering, hentries, hreason⟩ : c.entering 4 = [0, 1] ∧
      (c.entering 4).map (fun k => (step^[k] c).entry) =
        [.execute 0x0100 0xCB 0x01 0xB0, .execute 0x0102 0x76 0x10 0x00] ∧
      (step^[4] c).reason? = some .haltInstruction := by decide +kernel
  obtain ⟨-, -, last, hevents, -, -, hhalted, -⟩ := log_of_run h 4
  obtain ⟨s, hs, hsreason⟩ := Option.bind_eq_some_iff.mp hreason
  obtain ⟨e, hlast, he⟩ := hhalted s hs
  rw [hentries] at hevents
  exact ⟨h, hentering, last, hevents, e, s, hlast, he, hsreason⟩

end Cpu

end Lr35902
