import Lr35902.Proofs.Multibyte.Chain

/-!
# Shifts of any length

A number is shifted up from its lowest byte to its highest, and down from its highest to its lowest
(`downward`). From one byte to the next the carry flag holds the bit on its way, so that a chain of
`RL` or `RR` shifts the number with the carry flag as one bit more (`number_rl`, `account_rr`), and
each undoes the other. What goes in at the start is up to the first byte: `SLA` and `SRL` clear it,
`SRA` takes the sign.
-/

namespace Lr35902

namespace Radix

/-- The highest bit of the highest byte. -/
def topBit (bs : List UInt8) : Bool := (binary.number bs).testBit (8 * bs.length - 1)

/-- The number in two's complement. -/
def signed (bs : List UInt8) : Int :=
  if topBit bs then (binary.number bs : Int) - (256 ^ bs.length : Nat) else binary.number bs

theorem topBit_concat (bs : List UInt8) (b : UInt8) :
    topBit (bs ++ [b]) = b.toNat.testBit 7 := by
  have hpow : 256 ^ bs.length = 2 ^ (8 * bs.length) := by rw [Nat.pow_mul]
  have hlt := binary_lt bs
  have hplace : 8 * (bs ++ [b]).length - 1 = 8 * bs.length + 7 := by
    rw [List.length_append, List.length_singleton]
    omega
  unfold topBit
  rw [hpow] at hlt
  rw [hplace, binary_concat, hpow, Nat.add_comm, Nat.testBit_two_pow_mul_add _ hlt,
    if_neg (by omega), Nat.add_sub_cancel_left]

/-- The top bit says whether the number reaches half its range. -/
theorem topBit_iff {bs : List UInt8} (hne : bs ≠ []) :
    topBit bs = true ↔ 256 ^ bs.length ≤ 2 * binary.number bs := by
  have hpos : 0 < bs.length := List.length_pos_iff.mpr hne
  have hpow : 256 ^ bs.length = 2 ^ (8 * bs.length - 1 + 1) := by
    rw [Nat.sub_add_cancel (by omega), Nat.pow_mul]
  have hlt := binary_lt bs
  rw [hpow] at hlt ⊢
  rw [Nat.pow_succ']
  unfold topBit
  rcases Nat.lt_or_ge (binary.number bs) (2 ^ (8 * bs.length - 1)) with hlow | hhigh
  · rw [Nat.testBit_lt_two_pow hlow]
    simp only [Bool.false_eq_true, false_iff]
    omega
  · rw [Nat.testBit_of_two_pow_le_and_two_pow_add_one_gt hhigh hlt]
    simp only [true_iff]
    omega

end Radix

namespace Alu

open Radix (binary topBit signed)

variable {call : Flags → UInt8 → UInt8 × Flags} {bs : List UInt8}

theorem account_moveLeft (enter : Bool) (v : UInt8) :
    (moveLeft enter v).1.toNat + 256 * (moveLeft enter v).2.carry.toNat =
      2 * v.toNat + enter.toNat := by
  have := v.toNat_lt
  have := enter.toNat_le
  have hr : (moveLeft enter v).1.toNat = (2 * v.toNat + enter.toNat) % 256 :=
    Byte.toNat_double ..
  have hout : (moveLeft enter v).2.carry.toNat = v.toNat / 2 ^ 7 % 2 := Nat.toNat_testBit ..
  omega

theorem account_moveRight (enter : Bool) (v : UInt8) :
    2 * (moveRight enter v).1.toNat + (moveRight enter v).2.carry.toNat =
      v.toNat + 256 * enter.toNat := by
  have := v.toNat_lt
  have := enter.toNat_le
  have hr : (moveRight enter v).1.toNat = 128 * enter.toNat + v.toNat / 2 := Byte.toNat_halve ..
  have hout : (moveRight enter v).2.carry.toNat = v.toNat / 2 ^ 0 % 2 := Nat.toNat_testBit ..
  omega

/-! ### Upward -/

theorem balanced_rl (v : UInt8) : Balanced binary 1 rl id id v where
  isDigit _ := trivial
  account f := by
    have haccount := account_moveLeft f.carry v
    show ((rl f v).1.toNat : Int) + 1 * (256 * (rl f v).2.carry.toNat) =
      v.toNat + 1 * (v.toNat + f.carry.toNat)
    unfold rl
    omega

theorem number_rl (f : Flags) (bs : List UInt8) :
    let total := 2 * binary.number bs + f.carry.toNat
    binary.number (chain rl f bs).1 = total % 256 ^ bs.length ∧
      (chain rl f bs).2.carry.toNat = total / 256 ^ bs.length := by
  have hsum := number_of_additions (fun v (_ : v ∈ bs) => balanced_rl v) f
  rwa [List.map_id, ← Nat.two_mul] at hsum

theorem carry_rl (hne : bs ≠ []) (f : Flags) : (chain rl f bs).2.carry = topBit bs := by
  rw [← List.dropLast_concat_getLast hne, chain_concat, Radix.topBit_concat]
  rfl

/-! ### Downward -/

/-- A chain from the highest byte to the lowest. -/
def downward (run : List UInt8 → List UInt8 × Flags) (bs : List UInt8) : List UInt8 × Flags :=
  let r := run bs.reverse
  (r.1.reverse, r.2)

theorem downward_cons (f : Flags) (b : UInt8) (bs : List UInt8) :
    let above := downward (chain call f) bs
    downward (chain call f) (b :: bs) = ((call above.2 b).1 :: above.1, (call above.2 b).2) := by
  simp only [downward, List.reverse_cons, chain_concat, List.reverse_append, List.reverse_nil,
    List.nil_append, List.singleton_append]

theorem length_downward (f : Flags) (bs : List UInt8) :
    (downward (chain call f) bs).1.length = bs.length := by
  unfold downward
  rw [List.length_reverse, length_chain, List.length_reverse]

/-- The bit that goes in comes to lie above the highest byte, the one that comes out below the
lowest. -/
theorem account_rr (f : Flags) (bs : List UInt8) :
    let r := downward (chain rr f) bs
    2 * binary.number r.1 + r.2.carry.toNat =
      binary.number bs + 256 ^ bs.length * f.carry.toNat := by
  -- The lowest byte comes last, so the hypothesis is about the bytes that went before it.
  induction bs with
  | nil => simp [downward]
  | cons b bs ih =>
    have hb : 2 * (rr (downward (chain rr f) bs).2 b).1.toNat +
        (rr (downward (chain rr f) bs).2 b).2.carry.toNat =
          b.toNat + 256 * (downward (chain rr f) bs).2.carry.toNat := account_moveRight ..
    intro r
    show 2 * binary.number r.1 + r.2.carry.toNat = _
    simp only [r, downward_cons, Radix.number_cons, List.length_cons, Nat.pow_succ]
    show 2 * ((rr (downward (chain rr f) bs).2 b).1.toNat + 256 * _) + _ = b.toNat + 256 * _ + _
    linear_combination hb + 256 * ih

theorem number_rr (f : Flags) (bs : List UInt8) :
    binary.number (downward (chain rr f) bs).1 =
      (binary.number bs + 256 ^ bs.length * f.carry.toNat) / 2 := by
  have haccount := account_rr f bs
  have := (downward (chain rr f) bs).2.carry.toNat_lt
  dsimp only at haccount
  omega

theorem carry_rr (hne : bs ≠ []) (f : Flags) :
    (downward (chain rr f) bs).2.carry = (binary.number bs).testBit 0 := by
  cases bs with
  | nil => exact absurd rfl hne
  | cons b bs =>
    have hlow : (binary.number (b :: bs)).testBit 0 = b.toNat.testBit 0 := by
      rw [Radix.number_cons, Nat.testBit_zero, Nat.testBit_zero, decide_eq_decide]
      show (b.toNat + 256 * binary.number bs) % 2 = 1 ↔ _
      omega
    rw [hlow, downward_cons]
    rfl

theorem signed_rr (hne : bs ≠ []) {f : Flags} (hf : f.carry = topBit bs) :
    signed (downward (chain rr f) bs).1 = signed bs / 2 := by
  have hlength : (downward (chain rr f) bs).1.length = bs.length := length_downward f bs
  have hne' : (downward (chain rr f) bs).1 ≠ [] := by
    rw [← List.length_pos_iff, hlength]
    exact List.length_pos_iff.mpr hne
  have haccount := account_rr f bs
  have hout := (downward (chain rr f) bs).2.carry.toNat_lt
  have hlt := Radix.binary_lt bs
  have htop := Radix.topBit_iff hne
  have htop' := Radix.topBit_iff hne'
  rw [hlength] at htop'
  unfold signed
  rw [hlength]
  dsimp only at haccount
  rw [hf] at haccount
  -- The bit that goes in is the sign, so the result is on the same side of half its range.
  cases ht : topBit bs with
  | false =>
    rw [ht, Bool.toNat_false] at haccount
    have hlow : ¬ 256 ^ bs.length ≤ 2 * binary.number bs := by
      rw [← htop, ht]
      decide
    rw [if_neg (by rw [htop']; omega), if_neg Bool.false_ne_true]
    omega
  | true =>
    rw [ht, Bool.toNat_true] at haccount
    have hhigh := htop.mp ht
    rw [if_pos (htop'.mpr (by omega)), if_pos rfl]
    omega

/-- What went up through `RL` comes down again through `RR`. -/
theorem rr_of_rl (f : Flags) (bs : List UInt8) :
    let up := chain rl f bs
    let back := downward (chain rr up.2) up.1
    back.1 = bs ∧ back.2.carry = f.carry := by
  intro up back
  have hlength : up.1.length = bs.length := length_chain f bs
  have hup : binary.number up.1 + 256 ^ bs.length * up.2.carry.toNat =
      2 * binary.number bs + f.carry.toNat := by
    obtain ⟨hmod, hdiv⟩ := number_rl f bs
    rw [hmod, hdiv]
    exact Nat.mod_add_div ..
  have hback : 2 * binary.number back.1 + back.2.carry.toNat =
      2 * binary.number bs + f.carry.toNat := by
    rw [← hup, ← hlength]
    exact account_rr up.2 up.1
  have hout := back.2.carry.toNat_lt
  have hin := f.carry.toNat_lt
  constructor
  · refine Radix.eq_of_binary ((length_downward ..).trans hlength) ?_
    omega
  · exact Function.LeftInverse.injective Bool.ofNat_toNat (by omega)

theorem sla_chain (hne : bs ≠ []) (f : Flags) :
    chainFrom (fun _ v => sla v) rl f bs = chain rl { f with carry := false } bs :=
  chainFrom_eq hne fun _ _ => rfl

theorem downward_chainFrom {first : Flags → UInt8 → UInt8 × Flags} {f g : Flags} (hne : bs ≠ [])
    (h : ∀ b ∈ bs.getLast?, first f b = call g b) :
    downward (chainFrom first call f) bs = downward (chain call g) bs := by
  have hne' : bs.reverse ≠ [] := by rwa [Ne, List.reverse_eq_nil_iff]
  rw [← List.head?_reverse] at h
  rw [downward, chainFrom_eq hne' h, downward]

theorem srl_chain (hne : bs ≠ []) (f : Flags) :
    downward (chainFrom (fun _ v => srl v) rr f) bs =
      downward (chain rr { f with carry := false }) bs :=
  downward_chainFrom hne fun _ _ => rfl

/-- `SRA` is `RR` with the sign in the carry. -/
theorem sra_chain (hne : bs ≠ []) (f : Flags) :
    downward (chainFrom (fun _ v => sra v) rr f) bs =
      downward (chain rr { f with carry := topBit bs }) bs := by
  refine downward_chainFrom hne fun b hb => ?_
  obtain ⟨low, rfl⟩ := List.getLast?_eq_some_iff.mp hb
  show moveRight _ b = moveRight (topBit (low ++ [b])) b
  rw [Radix.topBit_concat]

/-- Any number of bytes: a chain of `RL` doubles the number and takes the carry flag in, and a chain
of `RR` brings every byte and the carry flag back. With `SLA` on the lowest byte the number is
doubled; with `SRL` or `SRA` on the highest it is halved, without a sign or with one. Each chain
leaves in the carry flag the bit that came out. -/
theorem multibyte_shifts (bs : List UInt8) (f : Flags) :
    let n := bs.length
    let V := binary.number bs
    let up := chain rl f bs
    let back := downward (chain rr up.2) up.1
    let double := chainFrom (fun _ v => sla v) rl f bs
    let half := downward (chainFrom (fun _ v => srl v) rr f) bs
    let signedHalf := downward (chainFrom (fun _ v => sra v) rr f) bs
    (up.1.length = n ∧ binary.number up.1 = (2 * V + f.carry.toNat) % 256 ^ n ∧
      back.1 = bs ∧ back.2.carry = f.carry) ∧
    (bs ≠ [] →
      up.2.carry = V.testBit (8 * n - 1) ∧
      (double.1.length = n ∧ binary.number double.1 = 2 * V % 256 ^ n ∧
        double.2.carry = V.testBit (8 * n - 1)) ∧
      (half.1.length = n ∧ binary.number half.1 = V / 2 ∧ half.2.carry = V.testBit 0) ∧
      (signedHalf.1.length = n ∧ signed signedHalf.1 = signed bs / 2 ∧
        signedHalf.2.carry = V.testBit 0)) := by
  intro n V up back double half signedHalf
  refine ⟨⟨length_chain f bs, (number_rl f bs).1, rr_of_rl f bs⟩, fun hne => ?_⟩
  have hdouble : double = chain rl { f with carry := false } bs := sla_chain hne f
  have hhalf : half = downward (chain rr { f with carry := false }) bs := srl_chain hne f
  have hsigned : signedHalf = downward (chain rr { f with carry := topBit bs }) bs :=
    sra_chain hne f
  rw [hdouble, hhalf, hsigned]
  exact ⟨carry_rl hne f, ⟨length_chain _ bs, (number_rl _ bs).1, carry_rl hne _⟩,
    ⟨length_downward _ bs, number_rr _ bs, carry_rr hne _⟩,
    ⟨length_downward _ bs, signed_rr hne rfl, carry_rr hne _⟩⟩

/-- A negative number halved towards minus infinity, and brought back by the carry. -/
theorem multibyte_shifts_negative :
    let f : Flags := { zero := false, subtract := false, halfCarry := false, carry := true }
    let up := chain rl f [0x05, 0x80]
    let back := downward (chain rr up.2) up.1
    let half := downward (chainFrom (fun _ v => sra v) rr f) [0x05, 0x80]
    binary.number up.1 = 0x000B ∧ up.2.carry = true ∧
      back.1 = [0x05, 0x80] ∧ back.2.carry = true ∧
      signed [0x05, 0x80] = -0x7FFB ∧ signed half.1 = -0x3FFE ∧ half.2.carry = true := by
  intro f up back half
  obtain ⟨⟨-, hup, hback⟩, hnonempty⟩ := multibyte_shifts [0x05, 0x80] f
  obtain ⟨hcarry, -, -, -, hhalf, hout⟩ := hnonempty (by decide)
  exact ⟨hup.trans (by decide), hcarry.trans (by decide), hback.1, hback.2, by decide,
    hhalf.trans (by decide), hout.trans (by decide)⟩

end Alu

end Lr35902
