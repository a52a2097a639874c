import Mathlib.Data.Nat.Init

/-!
# Bytes

There are few enough bytes to go through them all (`decidableForallByte`). A byte is determined by
its eight bits (`Byte.ext`), and every choice of bits is that of a byte (`Byte.bit_ofBits`).
Positions are counted modulo 8, from the low end.
-/

namespace Lr35902

/-- A property of all bytes is decided byte by byte. -/
instance decidableForallByte (p : UInt8 → Prop) [DecidablePred p] : Decidable (∀ b, p b) :=
  decidable_of_iff (∀ n : Fin 256, p (UInt8.ofNat n)) <| by
    constructor
    · intro h b
      have := h ⟨b.toNat, b.toNat_lt⟩
      rwa [UInt8.ofNat_toNat] at this
    · intro h n
      exact h _

namespace Byte

def bit (v : UInt8) (i : Fin 8) : Bool := v.toNat.testBit i

/-- The byte with the given bits. -/
def ofBits (f : Fin 8 → Bool) : UInt8 := UInt8.ofNat (Nat.ofBits f)

/-- The byte with one bit replaced. -/
def withBit (v : UInt8) (i : Fin 8) (b : Bool) : UInt8 :=
  ofBits fun j => if j = i then b else bit v j

theorem toNat_ofBits (f : Fin 8 → Bool) : (ofBits f).toNat = Nat.ofBits f :=
  UInt8.toNat_ofNat_of_lt' (Nat.ofBits_lt_two_pow f)

@[simp] theorem bit_ofBits (f : Fin 8 → Bool) (i : Fin 8) : bit (ofBits f) i = f i := by
  unfold bit
  rw [toNat_ofBits, Nat.testBit_ofBits_lt f i i.isLt]

theorem ext {v w : UInt8} (h : ∀ i, bit v i = bit w i) : v = w := by
  apply UInt8.toBitVec_inj.mp
  apply BitVec.eq_of_getLsbD_eq
  intro i hi
  exact h ⟨i, hi⟩

theorem eq_ofBits {v : UInt8} {f : Fin 8 → Bool} (h : ∀ i, bit v i = f i) : v = ofBits f :=
  ext fun i => (h i).trans (bit_ofBits f i).symm

theorem bit_and (v w : UInt8) (i : Fin 8) : bit (v &&& w) i = (bit v i && bit w i) := by
  simp [bit]

theorem bit_or (v w : UInt8) (i : Fin 8) : bit (v ||| w) i = (bit v i || bit w i) := by
  simp [bit]

theorem bit_xor (v w : UInt8) (i : Fin 8) : bit (v ^^^ w) i = (bit v i ^^ bit w i) := by
  simp [bit]

theorem bit_not (v : UInt8) (i : Fin 8) : bit (~~~v) i = !bit v i := by
  have h : (~~~v).toBitVec.getLsbD i = !v.toBitVec.getLsbD i := by
    rw [UInt8.toBitVec_not, BitVec.getLsbD_not, decide_eq_true i.isLt, Bool.true_and]
  exact h

theorem toNat_flag (b : Bool) : b.toUInt8.toNat = b.toNat := by
  cases b <;> rfl

theorem toNat_double (v : UInt8) (enter : Bool) :
    (v * 2 + enter.toUInt8).toNat = (2 * v.toNat + enter.toNat) % 256 := by
  simp [UInt8.toNat_add, UInt8.toNat_mul, toNat_flag, Nat.mul_comm]

theorem toNat_halve (v : UInt8) (enter : Bool) :
    (v / 2 + enter.toUInt8 * 128).toNat = 128 * enter.toNat + v.toNat / 2 := by
  have := v.toNat_lt
  have := enter.toNat_lt
  simp only [UInt8.toNat_add, UInt8.toNat_mul, UInt8.toNat_div, toNat_flag, UInt8.reduceToNat]
  omega

/-- The bits of a byte moved up one place. -/
theorem bit_double (v : UInt8) (enter : Bool) (i : Fin 8) :
    bit (v * 2 + enter.toUInt8) i = if i = 0 then enter else bit v (i - 1) := by
  have hn : (v * 2 + enter.toUInt8).toNat = (2 ^ 1 * v.toNat + enter.toNat) % 2 ^ 8 :=
    toNat_double v enter
  have hlow : enter.toNat < 2 ^ 1 := enter.toNat_lt
  unfold bit
  rw [hn, Nat.testBit_mod_two_pow, decide_eq_true i.isLt, Bool.true_and,
    Nat.testBit_two_pow_mul_add _ hlow]
  by_cases hi : i = 0
  · subst hi
    cases enter <;> rfl
  · have hpos : ¬ i.val < 1 := by omega
    have hval : (i - 1).val = i.val - 1 := by omega
    rw [if_neg hpos, if_neg hi, hval]

theorem bit_halve (v : UInt8) (enter : Bool) (i : Fin 8) :
    bit (v / 2 + enter.toUInt8 * 128) i = if i = 7 then enter else bit v (i + 1) := by
  have hv := v.toNat_lt
  have hn : (v / 2 + enter.toUInt8 * 128).toNat = 2 ^ 7 * enter.toNat + v.toNat / 2 ^ 1 :=
    toNat_halve v enter
  have hlow : v.toNat / 2 ^ 1 < 2 ^ 7 := by omega
  unfold bit
  rw [hn, Nat.testBit_two_pow_mul_add _ hlow]
  by_cases hi : i = 7
  · subst hi
    cases enter <;> rfl
  · have hlt : i.val < 7 := by omega
    have hval : (i + 1).val = i.val + 1 := by omega
    rw [if_pos hlt, if_neg hi, hval, Nat.testBit_div_two_pow]

theorem bit_swap (v : UInt8) (i : Fin 8) : bit (v * 16 + v / 16) i = bit v (i + 4) := by
  have hv := v.toNat_lt
  have hn : (v * 16 + v / 16).toNat = 2 ^ 4 * (v.toNat % 2 ^ 4) + v.toNat / 2 ^ 4 := by
    simp only [UInt8.toNat_add, UInt8.toNat_mul, UInt8.toNat_div, UInt8.reduceToNat]
    omega
  have hlow : v.toNat / 2 ^ 4 < 2 ^ 4 := by omega
  unfold bit
  rw [hn, Nat.testBit_two_pow_mul_add _ hlow]
  split
  · have hval : (i + 4).val = i.val + 4 := by omega
    rw [Nat.testBit_div_two_pow, hval]
  · have hval : (i + 4).val = i.val - 4 := by omega
    have hlt : i.val - 4 < 4 := by omega
    rw [Nat.testBit_mod_two_pow, decide_eq_true hlt, Bool.true_and, hval]

end Byte

end Lr35902
