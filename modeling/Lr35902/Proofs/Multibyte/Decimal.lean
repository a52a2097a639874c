import Lr35902.Proofs.Multibyte.Arithmetic

/-!
# Packed decimals of any length

`DAA` behind `ADC` or `SBC` makes the binary sum or difference of two packed decimals a decimal one,
and leaves the carry flag as the decimal carry or borrow (`balanced_adjusted_adc`,
`balanced_adjusted_sbc`). So the two in turn add and subtract packed decimals of any length.
-/

namespace Lr35902

/-- Two decimal digits to a byte, the higher one in the high nibble. -/
def Radix.packed : Radix where
  base := 100
  one_lt := by decide
  IsDigit b := b.toNat / 16 ≤ 9 ∧ b.toNat % 16 ≤ 9
  digit b := 10 * (b.toNat / 16) + b.toNat % 16
  digit_lt := by omega

namespace Radix

instance (b : UInt8) : Decidable (packed.IsDigit b) := inferInstanceAs (Decidable (_ ∧ _))

theorem isDigit_packed (b : UInt8) :
    packed.IsDigit b ↔ b.toNat / 16 ≤ 9 ∧ b.toNat % 16 ≤ 9 := Iff.rfl

theorem digit_packed (b : UInt8) :
    packed.digit b = 10 * (b.toNat / 16) + b.toNat % 16 := rfl

end Radix

namespace Alu

open Radix (packed)

variable {f : Flags} {a b : UInt8}

theorem toNat_decimalCorrection (low high : Bool) :
    (decimalCorrection low high).toNat = 6 * low.toNat + 96 * high.toNat := by
  cases low <;> cases high <;> rfl

theorem daa_of_sum (h : f.subtract = false) (v : UInt8) :
    let low := f.halfCarry || decide (9 < v.toNat % 16)
    let high := f.carry || decide (0x99 < v.toNat)
    (daa f v).1.toNat = (v.toNat + (6 * low.toNat + 96 * high.toNat)) % 256 ∧
      (daa f v).2.carry = high := by
  unfold daa
  simp only [h, Bool.not_false, Bool.true_and, Bool.false_eq_true, ↓reduceIte, UInt8.toNat_add,
    toNat_decimalCorrection]
  trivial

theorem daa_of_difference (h : f.subtract = true) (v : UInt8) :
    (daa f v).1.toNat =
        (256 + v.toNat - (6 * f.halfCarry.toNat + 96 * f.carry.toNat)) % 256 ∧
      (daa f v).2.carry = f.carry := by
  have := f.halfCarry.toNat_le
  have := f.carry.toNat_le
  unfold daa
  simp only [h, Bool.not_true, Bool.false_and, Bool.or_false, ↓reduceIte, UInt8.toNat_sub,
    toNat_decimalCorrection]
  refine ⟨?_, trivial⟩
  omega

def adjusted (op : Flags → UInt8 → UInt8 → UInt8 × Flags) (f : Flags) (a b : UInt8) :
    UInt8 × Flags :=
  let r := op f a b
  daa r.2 r.1

/-- Each pair of nibbles that comes to 10 or more is brought down by 10, and counts in the next. -/
theorem adjusted_adc (ha : packed.IsDigit a) (hb : packed.IsDigit b) (f : Flags) :
    packed.IsDigit (adjusted adc f a b).1 ∧
      packed.digit (adjusted adc f a b).1 + 100 * (adjusted adc f a b).2.carry.toNat =
        packed.digit a + packed.digit b + f.carry.toNat := by
  rw [Radix.isDigit_packed] at ha hb
  have hc := f.carry.toNat_le
  have hv : (adc f a b).1.toNat = (a.toNat + b.toNat + f.carry.toNat) % 256 := toNat_addWith ..
  have hlow : ((adc f a b).2.halfCarry || decide (9 < (adc f a b).1.toNat % 16)) =
      decide (10 ≤ a.toNat % 16 + b.toNat % 16 + f.carry.toNat) := by
    show (decide _ || decide _) = _
    rw [← Bool.decide_or]
    refine decide_eq_decide.mpr ?_
    rw [hv]
    omega
  -- 153 is 0x99, the greatest sum that both nibbles can hold.
  have hhigh : ((adc f a b).2.carry || decide (0x99 < (adc f a b).1.toNat)) =
      decide (153 < a.toNat + b.toNat + f.carry.toNat) := by
    show (decide _ || decide _) = _
    rw [← Bool.decide_or]
    refine decide_eq_decide.mpr ?_
    rw [hv]
    omega
  obtain ⟨hr, hcarry⟩ := daa_of_sum (f := (adc f a b).2) rfl (adc f a b).1
  rw [hlow, hhigh, hv, toNat_decide, toNat_decide] at hr
  rw [hhigh] at hcarry
  unfold adjusted
  rw [Radix.isDigit_packed, Radix.digit_packed, Radix.digit_packed, Radix.digit_packed, hr, hcarry,
    toNat_decide]
  clear hr hcarry hlow hhigh hv
  split <;> split <;> omega

theorem adjusted_sbc (ha : packed.IsDigit a) (hb : packed.IsDigit b) (f : Flags) :
    packed.IsDigit (adjusted sbc f a b).1 ∧
      packed.digit (adjusted sbc f a b).1 + (packed.digit b + f.carry.toNat) =
        packed.digit a + 100 * (adjusted sbc f a b).2.carry.toNat := by
  rw [Radix.isDigit_packed] at ha hb
  have hc := f.carry.toNat_le
  have hhalf : (sbc f a b).2.halfCarry.toNat =
      if a.toNat % 16 < b.toNat % 16 + f.carry.toNat then 1 else 0 := toNat_decide _
  have hborrow : (sbc f a b).2.carry.toNat =
      if a.toNat < b.toNat + f.carry.toNat then 1 else 0 := carry_subWith ..
  have hv : (sbc f a b).1.toNat = (256 + a.toNat - (b.toNat + f.carry.toNat)) % 256 :=
    toNat_subWith ..
  obtain ⟨hr, hcarry⟩ := daa_of_difference (f := (sbc f a b).2) rfl (sbc f a b).1
  rw [hv, hhalf, hborrow] at hr
  unfold adjusted
  rw [Radix.isDigit_packed, Radix.digit_packed, Radix.digit_packed, Radix.digit_packed, hr, hcarry,
    hborrow]
  clear hr hcarry hhalf hborrow hv
  split <;> split <;> omega

theorem balanced_adjusted_adc {x : UInt8 × UInt8} (ha : packed.IsDigit x.1)
    (hb : packed.IsDigit x.2) :
    Balanced packed 1 (paired (adjusted adc)) Prod.fst Prod.snd x where
  isDigit f := (adjusted_adc ha hb f).1
  account f := by
    have hsum := (adjusted_adc ha hb f).2
    show (packed.digit (adjusted adc f x.1 x.2).1 : Int) +
        1 * (100 * (adjusted adc f x.1 x.2).2.carry.toNat) =
      packed.digit x.1 + 1 * (packed.digit x.2 + f.carry.toNat)
    omega

theorem balanced_adjusted_sbc {x : UInt8 × UInt8} (ha : packed.IsDigit x.1)
    (hb : packed.IsDigit x.2) :
    Balanced packed (-1) (paired (adjusted sbc)) Prod.fst Prod.snd x where
  isDigit f := (adjusted_sbc ha hb f).1
  account f := by
    have hdiff := (adjusted_sbc ha hb f).2
    show (packed.digit (adjusted sbc f x.1 x.2).1 : Int) +
        -1 * (100 * (adjusted sbc f x.1 x.2).2.carry.toNat) =
      packed.digit x.1 + -1 * (packed.digit x.2 + f.carry.toNat)
    omega

/-- Packed decimals of any length: `ADC` and then `DAA`, byte by byte, is a decimal addition, and
`SBC` and then `DAA` a decimal subtraction, modulo the numbers of that length. The results are
packed decimals again, and the carry flag is the carry or borrow of the whole. -/
theorem packed_decimal_arithmetic (as bs : List UInt8) (f : Flags) (hlen : as.length = bs.length)
    (has : ∀ b ∈ as, packed.IsDigit b) (hbs : ∀ b ∈ bs, packed.IsDigit b) :
    let n := as.length
    let A := packed.number as
    let B := packed.number bs
    let c := f.carry.toNat
    let sum := chain₂ (adjusted adc) f as bs
    let diff := chain₂ (adjusted sbc) f as bs
    (sum.1.length = n ∧ (∀ b ∈ sum.1, packed.IsDigit b) ∧
      packed.number sum.1 = (A + B + c) % 100 ^ n ∧
      sum.2.carry.toNat = (A + B + c) / 100 ^ n) ∧
    (diff.1.length = n ∧ (∀ b ∈ diff.1, packed.IsDigit b) ∧
      (packed.number diff.1 : Int) = ((A : Int) - B - c) % 100 ^ n ∧
      (diff.2.carry = true ↔ A < B + c)) := by
  intro n A B c sum diff
  have hsum : ∀ x ∈ as.zip bs, Balanced packed 1 (paired (adjusted adc)) Prod.fst Prod.snd x := by
    rintro ⟨a, b⟩ hx
    obtain ⟨ha, hb⟩ := List.of_mem_zip hx
    exact balanced_adjusted_adc (has a ha) (hbs b hb)
  have hdiff :
      ∀ x ∈ as.zip bs, Balanced packed (-1) (paired (adjusted sbc)) Prod.fst Prod.snd x := by
    rintro ⟨a, b⟩ hx
    obtain ⟨ha, hb⟩ := List.of_mem_zip hx
    exact balanced_adjusted_sbc (has a ha) (hbs b hb)
  have hnumber : (packed.number diff.1 : Int) = ((A : Int) - B - c) % 100 ^ n := by
    rw [Int.sub_sub]
    exact_mod_cast (number_of_subtractions₂ hlen hdiff f).1
  exact ⟨⟨length_chain₂ hlen f, isDigit_chain hsum f, number_of_additions₂ hlen hsum f⟩,
    length_chain₂ hlen f, isDigit_chain hdiff f, hnumber,
    (number_of_subtractions₂ hlen hdiff f).2⟩

/-- 9999 + 1 carries out of every digit, and 0000 - 1 borrows from every digit. -/
theorem packed_decimal_arithmetic_rollover :
    let f : Flags := { zero := false, subtract := false, halfCarry := true, carry := true }
    let sum := chain₂ (adjusted adc) f [0x99, 0x99] [0x00, 0x00]
    let diff := chain₂ (adjusted sbc) f [0x00, 0x00] [0x00, 0x00]
    packed.number sum.1 = 0 ∧ sum.2.carry.toNat = 1 ∧
      (packed.number diff.1 : Int) = 9999 ∧ diff.2.carry = true := by
  intro f sum diff
  have hnines : ∀ b ∈ [0x99, 0x99], packed.IsDigit b := by simp [Radix.isDigit_packed]
  have hzeros : ∀ b ∈ [0x00, 0x00], packed.IsDigit b := by simp [Radix.isDigit_packed]
  obtain ⟨⟨-, -, hsum, hcarry⟩, -⟩ :=
    packed_decimal_arithmetic [0x99, 0x99] [0x00, 0x00] f rfl hnines hzeros
  obtain ⟨-, -, -, hdiff, hborrow⟩ :=
    packed_decimal_arithmetic [0x00, 0x00] [0x00, 0x00] f rfl hzeros hzeros
  exact ⟨hsum.trans (by decide), hcarry.trans (by decide), hdiff.trans (by decide),
    hborrow.mpr (by decide)⟩

end Alu

end Lr35902
