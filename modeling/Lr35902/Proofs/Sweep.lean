import Lr35902.Proofs.Control
import Lr35902.Proofs.Listing

/-!
# Straight-line execution

The listing reads memory as one instruction behind the other; so does the processor as long as it
takes no jump, call or return. Unless it changes the code that lies ahead, it stands in the lines of
the listing one by one, and it halts at the latest in the last one, behind which there is no address
left (`follows_listing`).
-/

namespace Lr35902

namespace Memory

theorem listing_toNat (m : Memory) (a : UInt16) :
    m.listing a.toNat =
      m.disassemble a.toNat :: m.listing (a.toNat + Opcode.length (m.read a)) := by
  rw [listing, if_pos a.toNat_lt, readOrZero_toNat]

end Memory

namespace Cpu

/-- In the first `k` steps the processor takes no transfer and changes no cell from its program
counter up. -/
structure Straight (k : Nat) (c : Cpu) : Prop where
  flow : ∀ j < k, ¬(step^[j] c).Transfers
  kept : ∀ j < k, ∀ a : UInt16, c.regs.pc.toNat ≤ a.toNat →
    (step^[j + 1] c).mem.read a = (step^[j] c).mem.read a

variable {c : Cpu} {j k : Nat}

theorem Straight.read_iterate (h : c.Straight k) (hj : j ≤ k) {a : UInt16}
    (ha : c.regs.pc.toNat ≤ a.toNat) : (step^[j] c).mem.read a = c.mem.read a := by
  induction j with
  | zero => rfl
  | succ j ih => rw [h.kept j hj a ha, ih (Nat.le_of_succ_le hj)]

/-- What is left of the listing after `j` lines is the listing from where the processor stands after
`j` steps. -/
theorem Straight.drop_listing (h : c.Straight k) (hj : j ≤ k)
    (hrun : (step^[j] c).isHalted = false) :
    c.regs.pc.toNat ≤ (step^[j] c).regs.pc.toNat ∧
      (c.mem.listing c.regs.pc.toNat).drop j = c.mem.listing (step^[j] c).regs.pc.toNat := by
  induction j with
  | zero => exact ⟨Nat.le_refl _, rfl⟩
  | succ j ih =>
    have hbefore := running_of_le hrun (Nat.le_succ j)
    obtain ⟨hpc, hdrop⟩ := ih (Nat.le_of_succ_le hj) hbefore
    rw [Function.iterate_succ_apply'] at hrun ⊢
    have hmove := pc_step hbefore hrun (h.flow j hj)
    -- The step goes as far as the opcode in memory says now, the listing as it said at the start.
    rw [h.read_iterate (Nat.le_of_succ_le hj) hpc] at hmove
    rw [hmove]
    refine ⟨Nat.le_trans hpc (Nat.le_add_right ..), ?_⟩
    rw [← List.tail_drop, hdrop, Memory.listing_toNat, List.tail_cons]

/-- A processor that stands in the last line has no address to go on to. -/
theorem Straight.cause?_of_last (h : c.Straight k) (hj : j ≤ k)
    (hlast : j + 1 = (c.mem.listing c.regs.pc.toNat).length)
    (hrun : (step^[j] c).isHalted = false) : (step^[j] c).cause? = some .pcOverflow := by
  obtain ⟨hpc, hdrop⟩ := h.drop_listing hj hrun
  have hrest : (c.mem.listing c.regs.pc.toNat).drop (j + 1) = [] :=
    List.drop_of_length_le (Nat.le_of_eq hlast.symm)
  rw [← List.tail_drop, hdrop, Memory.listing_toNat, List.tail_cons, ← h.read_iterate hj hpc,
    ← length_nextInstr] at hrest
  exact if_neg (Nat.not_le.mpr (Memory.le_of_listing_eq_nil hrest))

/-- A processor that neither takes a transfer nor changes the code ahead stands, after `j` steps, in
line `j` of the listing from its program counter, as long as it is running. It halts within as many
steps as there are lines, and if that is in the last line, because memory ends there. -/
theorem follows_listing (c : Cpu) (k : Nat) (h : c.Straight k) :
    let lines := c.mem.listing c.regs.pc.toNat
    (∀ j ≤ k, (step^[j] c).isHalted = false →
      ∃ hj : j < lines.length, (step^[j] c).regs.pc.toNat = lines[j].address) ∧
    (lines.length ≤ k + 1 → (step^[lines.length] c).isHalted = true) ∧
    ∀ last ≤ k, last + 1 = lines.length → (step^[last] c).isHalted = false →
      (step^[last] c).step.isHalted = true ∧
        (step^[last] c).step.reason? = some .pcOverflow := by
  intro lines
  have inLast : ∀ last ≤ k, last + 1 = lines.length → (step^[last] c).isHalted = false →
      (step^[last] c).step.isHalted = true ∧
        (step^[last] c).step.reason? = some .pcOverflow := by
    intro last hle hlast hrun
    rw [isHalted_step hrun, reason?_step hrun, h.cause?_of_last hle hlast hrun]
    exact ⟨rfl, rfl⟩
  refine ⟨?_, ?_, inLast⟩
  · intro j hj hrun
    have hhead : lines[j]? = some (c.mem.disassemble (step^[j] c).regs.pc.toNat) := by
      rw [← List.head?_drop, (h.drop_listing hj hrun).2, Memory.listing_toNat, List.head?_cons]
    obtain ⟨hlt, hline⟩ := List.getElem?_eq_some_iff.mp hhead
    exact ⟨hlt, (congrArg ListingLine.address hline).symm⟩
  · intro hlen
    obtain ⟨last, hlast⟩ : ∃ last, last + 1 = lines.length :=
      ⟨_, congrArg List.length (Memory.listing_toNat ..).symm⟩
    rw [← hlast] at hlen ⊢
    cases hrun : (step^[last] c).isHalted with
    | true =>
      rw [iterate_eq_of_le hrun (Nat.le_succ last)]
      exact hrun
    | false =>
      rw [Function.iterate_succ_apply']
      exact (inLast last (Nat.le_of_succ_le_succ hlen) hlast hrun).1

theorem straight_of_blank (hblank : ∀ a, c.mem.read a = 0) (k : Nat) : c.Straight k := by
  have hcells : ∀ {c : Cpu}, (∀ a, c.mem.read a = 0) → c.writable = [] := by
    intro c hc
    unfold writable
    rw [hc c.regs.pc]
    split <;> rfl
  have hstays : ∀ j a, (step^[j] c).mem.read a = 0 := by
    intro j
    induction j with
    | zero => exact hblank
    | succ j ih =>
      intro a
      rw [Function.iterate_succ_apply', read_step (by rw [hcells ih]; exact List.not_mem_nil), ih]
  refine ⟨?_, ?_⟩
  · rintro j - ⟨-, hop, -⟩
    rw [hstays] at hop
    revert hop
    decide
  · intro j _ a _
    rw [hstays, hstays]

/-- Off the end of blank memory. -/
theorem follows_listing_end :
    let c : Cpu := { fresh with regs := { Registers.postBoot with pc := 0xFFFE } }
    (c.mem.listing c.regs.pc.toNat).length = 2 ∧ (step^[2] c).isHalted = true ∧
      (step^[1] c).step.reason? = some .pcOverflow := by
  intro c
  have hblank : ∀ a, c.mem.read a = 0 := Memory.read_blank
  have hline (a : UInt16) :
      (c.mem.listing a.toNat).length = (c.mem.listing (a.toNat + 1)).length + 1 := by
    rw [Memory.listing_toNat, hblank, List.length_cons]
    rfl
  have hlen : (c.mem.listing c.regs.pc.toNat).length = 2 := by
    have hnext : c.regs.pc.toNat + 1 = (0xFFFF : UInt16).toNat := rfl
    have hnone : c.mem.listing ((0xFFFF : UInt16).toNat + 1) = [] := by
      rw [Memory.listing]
      rfl
    rw [hline, hnext, hline, hnone]
    rfl
  have hrun : (step^[1] c).isHalted = false := by
    rw [Function.iterate_one, isHalted_step rfl, cause?_eq (by rw [hblank]; decide)]
    simp only [hblank]
    rfl
  obtain ⟨-, hhalt, hlast⟩ := follows_listing c 1 (straight_of_blank hblank 1)
  have hhalted := hhalt (Nat.le_of_eq hlen)
  rw [hlen] at hhalted
  exact ⟨hlen, hhalted, (hlast 1 (Nat.le_refl 1) hlen.symm hrun).2⟩

end Cpu

end Lr35902
