import Lr35902.Proofs.Assembly.Arithmetic
import Lr35902.Proofs.Multibyte.Arithmetic

/-!
# Words byte by byte

A word is a number of two bytes, so adding words is a chain of two calls: `ADD` on the low bytes,
then `ADC` on the high ones. A sum of two words has the flags that the high bytes leave, a word plus
an offset those that the low bytes leave (`wide_additions`).
-/

namespace Lr35902

/-- The bytes of a word, the low one first. -/
def Word.digits (w : UInt16) : List UInt8 := [low w, high w]

@[simp] theorem Word.length_digits (w : UInt16) : (digits w).length = 2 := rfl

theorem Word.binary_digits (w : UInt16) : Radix.binary.number (digits w) = w.toNat := by
  show (low w).toNat + 256 * ((high w).toNat + 256 * 0) = w.toNat
  rw [toNat_low, toNat_high]
  omega

theorem Word.toNat_ofBytes_eq_number (h l : UInt8) :
    (ofBytes h l).toNat = Radix.binary.number [l, h] := by
  rw [← binary_digits, digits, low_ofBytes, high_ofBytes]

/-- An offset below zero has the sign byte `FF`. -/
theorem Word.signByte_eq (e : UInt8) : signByte e = if signed e < 0 then 0xFF else 0x00 := by
  have := e.toNat_lt
  unfold signByte signed
  split
  · rw [if_neg (by omega)]
  · rw [if_pos (by omega)]

namespace Alu

/-- The flags with which `ADC` is `ADD`. -/
def noCarry : Flags where
  zero := false
  subtract := false
  halfCarry := false
  carry := false

theorem chain_digits (a b : UInt16) :
    let lo := add (Word.low a) (Word.low b)
    let hi := adc lo.2 (Word.high a) (Word.high b)
    chain₂ adc noCarry (Word.digits a) (Word.digits b) = ([lo.1, hi.1], hi.2) := rfl

theorem addWords_eq_bytes (f : Flags) (a b : UInt16) :
    let lo := add (Word.low a) (Word.low b)
    let hi := adc lo.2 (Word.high a) (Word.high b)
    addWords f a b = (Word.ofBytes hi.1 lo.1, { hi.2 with zero := f.zero }) := by
  intro lo hi
  have hlen : (Word.digits a).length = (Word.digits b).length := rfl
  have hsum := (number_adc hlen noCarry).1
  have hcarry := carry_adc hlen noCarry
  have hhalf := halfCarry_adc hlen (List.cons_ne_nil _ _) noCarry
  have hnone : noCarry.carry.toNat = 0 := rfl
  -- With two digits the numbers end at 2^16, and below the highest nibble at 2^12.
  simp only [chain_digits, Word.binary_digits, Word.length_digits, hnone, Nat.add_zero,
    Nat.reduceSub, Nat.reducePow, Nat.reduceMul] at hsum hcarry hhalf
  have hword : a + b = Word.ofBytes hi.1 lo.1 := by
    apply UInt16.toNat_inj.mp
    rw [Word.toNat_ofBytes_eq_number, hsum, UInt16.toNat_add]
  refine Prod.ext hword (Flags.ext rfl rfl ?_ ?_)
  · exact Bool.eq_iff_iff.mpr (decide_eq_true_iff.trans hhalf.symm)
  · exact Bool.eq_iff_iff.mpr (decide_eq_true_iff.trans hcarry.symm)

/-- The flags of adding an offset to a word are those of adding its byte to the low byte. -/
theorem addOffset_eq_bytes (w : UInt16) (e : UInt8) :
    let lo := add (Word.low w) e
    let hi := adc lo.2 (Word.high w) (Word.signByte e)
    addOffset w e = (Word.ofBytes hi.1 lo.1, { lo.2 with zero := false }) := by
  intro lo hi
  have hsum : addWords noCarry w (Word.ofBytes (Word.signByte e) e) =
      (Word.ofBytes hi.1 lo.1, { hi.2 with zero := false }) := by
    rw [addWords_eq_bytes, Word.low_ofBytes, Word.high_ofBytes]
    rfl
  refine Prod.ext ?_ (Flags.ext rfl rfl ?_ ?_)
  · show (addWords noCarry w _).1 = _
    rw [hsum]
  · show decide _ = decide (16 ≤ (Word.low w).toNat % 16 + e.toNat % 16 + 0)
    rw [Word.toNat_low, Nat.mod_mod_of_dvd _ (by decide)]
    rfl
  · show decide _ = decide (256 ≤ (Word.low w).toNat + e.toNat + 0)
    rw [Word.toNat_low]
    rfl

/-- Adding words is adding their bytes, the low ones first and the carry between them. The sum of
two words has the flags that the high bytes leave but for the zero flag, which stays. A word plus an
offset, the high byte of which is its sign, has the flags that the low bytes leave and no zero flag;
the sum is right modulo 2^16. -/
theorem wide_additions (f : Flags) :
    (∀ a b : UInt16,
      let lo := add (Word.low a) (Word.low b)
      let hi := adc lo.2 (Word.high a) (Word.high b)
      addWords f a b =
        (Word.ofBytes hi.1 lo.1,
          { zero := f.zero
            subtract := hi.2.subtract
            halfCarry := hi.2.halfCarry
            carry := hi.2.carry })) ∧
    ∀ sp : UInt16, ∀ e : UInt8,
      let lo := add (Word.low sp) e
      let hi := adc lo.2 (Word.high sp) (if Word.signed e < 0 then 0xFF else 0x00)
      addOffset sp e =
        (Word.ofBytes hi.1 lo.1,
          { zero := false
            subtract := false
            halfCarry := lo.2.halfCarry
            carry := lo.2.carry }) ∧
      ((addOffset sp e).1.toNat : Int) = (sp.toNat + Word.signed e) % 65536 := by
  refine ⟨addWords_eq_bytes f, fun sp e => ?_⟩
  rw [← Word.signByte_eq]
  refine ⟨addOffset_eq_bytes sp e, ?_⟩
  rw [← Assembly.toNat_displaced, Assembly.displaced_signed]
  rfl

/-- Below address zero the sum wraps round, with no carry out of the low byte. -/
example : addOffset 0x0001 0xFE =
    (0xFFFF, { zero := false, subtract := false, halfCarry := false, carry := false }) := by
  decide

end Alu

end Lr35902
