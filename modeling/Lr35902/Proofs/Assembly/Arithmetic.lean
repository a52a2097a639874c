import Lr35902.Instr.Operation
import Lr35902.Proofs.Assembly.Meaning

/-!
# Arithmetic agrees

The arithmetic unit computes what the statements mean: results are sums, differences and rearranged
bits, flags are carries, borrows and bits moved out.
-/

namespace Lr35902.Assembly

open Byte (bit withBit)

theorem toNat_displaced (w : UInt16) (offset : Int) :
    ((displaced w offset).toNat : Int) = (w.toNat + offset) % 65536 := by
  unfold displaced UInt16.ofInt
  rw [UInt16.toNat_ofNat']
  omega

theorem displaced_eq {w v : UInt16} {offset : Int}
    (h : (v.toNat : Int) = (w.toNat + offset) % 65536) : displaced w offset = v := by
  apply UInt16.toNat_inj.mp
  have := toNat_displaced w offset
  omega

theorem displaced_zero (w : UInt16) : displaced w 0 = w :=
  displaced_eq (by have := w.toNat_lt; omega)

theorem displaced_one (w : UInt16) : displaced w 1 = w + 1 :=
  displaced_eq (by rw [UInt16.toNat_add, UInt16.toNat_one]; omega)

theorem displaced_neg_one (w : UInt16) : displaced w (-1) = w - 1 :=
  displaced_eq (by rw [UInt16.toNat_sub, UInt16.toNat_one]; omega)

theorem displaced_signed (w : UInt16) (offset : UInt8) :
    displaced w (Word.signed offset) = Word.addOffset w offset := by
  apply displaced_eq
  have := offset.toNat_lt
  unfold Word.addOffset Word.signByte Word.signed
  rw [UInt16.toNat_add, Word.toNat_ofBytes]
  split
  · simp only [UInt8.reduceToNat]
    omega
  · simp only [UInt8.reduceToNat]
    omega

theorem ofInt_sub (v w : UInt8) : UInt8.ofInt (v.toNat - w.toNat) = v - w := by
  have hv := v.toNat_lt
  have hw := w.toNat_lt
  apply UInt8.toNat_inj.mp
  unfold UInt8.ofInt
  rw [UInt8.toNat_ofNat', UInt8.toNat_sub]
  omega

theorem ofInt_add (v w : UInt8) : UInt8.ofInt (v.toNat + w.toNat) = v + w := by
  apply UInt8.toNat_inj.mp
  unfold UInt8.ofInt
  rw [UInt8.toNat_ofNat', UInt8.toNat_add]
  omega

/-! ### Sums and differences -/

theorem sum_eq (a b : UInt8) (c : Bool) : sum a b c = Alu.addWith c a b := by
  have hr : UInt8.ofNat (a.toNat + b.toNat + c.toNat) = a + b + c.toUInt8 := by
    apply UInt8.toNat_inj.mp
    rw [UInt8.toNat_ofNat', UInt8.toNat_add, UInt8.toNat_add, Byte.toNat_flag]
    omega
  have hc : carries 256 a.toNat b.toNat c.toNat = decide (256 ≤ a.toNat + b.toNat + c.toNat) := by
    have ha := a.toNat_lt
    have hb := b.toNat_lt
    unfold carries
    rw [Nat.mod_eq_of_lt ha, Nat.mod_eq_of_lt hb]
  unfold sum
  rw [hr, hc]
  rfl

theorem difference_eq (a b : UInt8) (c : Bool) : difference a b c = Alu.subWith c a b := by
  have ha := a.toNat_lt
  have hb := b.toNat_lt
  have hr : UInt8.ofInt (a.toNat - b.toNat - c.toNat) = a - b - c.toUInt8 := by
    have hc := c.toNat_lt
    apply UInt8.toNat_inj.mp
    unfold UInt8.ofInt
    rw [UInt8.toNat_ofNat', UInt8.toNat_sub, UInt8.toNat_sub, Byte.toNat_flag]
    omega
  have hc : borrows 256 a.toNat b.toNat c.toNat = decide (a.toNat < b.toNat + c.toNat) := by
    unfold borrows
    rw [Nat.mod_eq_of_lt ha, Nat.mod_eq_of_lt hb]
  unfold difference
  rw [hr, hc]
  rfl

theorem increment_eq (f : Flags) (v : UInt8) : increment f v = Alu.inc f v := by
  have hr : v + 1 + false.toUInt8 = v + 1 := UInt8.add_zero (v + 1)
  have hh : decide (16 ≤ v.toNat % 16 + (1 : UInt8).toNat % 16 + false.toNat) =
      decide (v.toNat % 16 = 15) := by
    apply decide_eq_decide.mpr
    simp only [UInt8.toNat_one, Bool.toNat_false]
    omega
  unfold increment
  rw [sum_eq]
  unfold Alu.addWith Alu.inc
  rw [hr, hh]

theorem decrement_eq (f : Flags) (v : UInt8) : decrement f v = Alu.dec f v := by
  have hr : v - 1 - false.toUInt8 = v - 1 := UInt8.sub_zero (v - 1)
  have hh : decide (v.toNat % 16 < (1 : UInt8).toNat % 16 + false.toNat) =
      decide (v.toNat % 16 = 0) := by
    apply decide_eq_decide.mpr
    simp only [UInt8.toNat_one, Bool.toNat_false]
    omega
  unfold decrement
  rw [difference_eq]
  unfold Alu.subWith Alu.dec
  rw [hr, hh]

theorem wordSum_eq (f : Flags) (a b : UInt16) : wordSum f a b = Alu.addWords f a b := by
  have ha := a.toNat_lt
  have hb := b.toNat_lt
  unfold wordSum Alu.addWords carries
  rw [Nat.mod_eq_of_lt ha, Nat.mod_eq_of_lt hb]
  simp

theorem offsetSum_eq (w : UInt16) (offset : UInt8) :
    offsetSum w (Word.signed offset) = Alu.addOffset w offset := by
  have hb := offset.toNat_lt
  have hlow : (Word.signed offset % 256).toNat = offset.toNat := by
    unfold Word.signed
    split <;> omega
  have hcarry : carries 256 w.toNat offset.toNat 0 =
      decide (256 ≤ w.toNat % 256 + offset.toNat) := by
    unfold carries
    rw [Nat.mod_eq_of_lt hb]
    rfl
  unfold offsetSum
  simp only [hlow, hcarry, displaced_signed]
  rfl

/-! ### Bits -/

theorem logic_eq {op : Bool → Bool → Bool} {a b r : UInt8} (halfCarry : Bool)
    (h : ∀ i, bit r i = op (bit a i) (bit b i)) :
    logic op halfCarry a b = (r, Alu.logicFlags r halfCarry) := by
  unfold logic
  rw [← Byte.eq_ofBits h]
  rfl

theorem arithmetic_eq (f : Flags) (a v : UInt8) (op : AluOp) :
    arithmetic f a v op = op.apply f a v := by
  cases op with
  | add => exact sum_eq a v false
  | adc => exact sum_eq a v f.carry
  | sub => exact difference_eq a v false
  | sbc => exact difference_eq a v f.carry
  | and => exact logic_eq true (Byte.bit_and a v)
  | xor => exact logic_eq false (Byte.bit_xor a v)
  | or => exact logic_eq false (Byte.bit_or a v)
  | cp => exact congrArg (fun r : UInt8 × Flags => (a, r.2)) (difference_eq a v false)

/-- A shift up fills bit 0 and loses bit 7. -/
theorem shiftBits_of_moveLeft {op : ShiftOp} {f : Flags} {v : UInt8} (enter : Bool)
    (h : shifted f.carry v op = Byte.ofBits fun i => if i = 0 then enter else bit v (i - 1))
    (hout : shiftedOut v op = bit v 7) :
    shiftBits f v op = Alu.moveLeft enter v := by
  unfold shiftBits
  rw [h, hout, ← Byte.eq_ofBits (Byte.bit_double v enter)]
  rfl

theorem shiftBits_of_moveRight {op : ShiftOp} {f : Flags} {v : UInt8} (enter : Bool)
    (h : shifted f.carry v op = Byte.ofBits fun i => if i = 7 then enter else bit v (i + 1))
    (hout : shiftedOut v op = bit v 0) :
    shiftBits f v op = Alu.moveRight enter v := by
  unfold shiftBits
  rw [h, hout, ← Byte.eq_ofBits (Byte.bit_halve v enter)]
  rfl

theorem shiftBits_eq (f : Flags) (v : UInt8) (op : ShiftOp) : shiftBits f v op = op.apply f v := by
  cases op with
  | rlc =>
    refine shiftBits_of_moveLeft (bit v 7) (congrArg Byte.ofBits (funext fun i => ?_)) rfl
    by_cases hi : i = 0
    · rw [if_pos hi, hi]
      rfl
    · exact (if_neg hi).symm
  | rrc =>
    refine shiftBits_of_moveRight (bit v 0) (congrArg Byte.ofBits (funext fun i => ?_)) rfl
    by_cases hi : i = 7
    · rw [if_pos hi, hi]
      rfl
    · exact (if_neg hi).symm
  | rl => exact shiftBits_of_moveLeft f.carry rfl rfl
  | rr => exact shiftBits_of_moveRight f.carry rfl rfl
  | sla => exact shiftBits_of_moveLeft false rfl rfl
  | sra => exact shiftBits_of_moveRight (bit v 7) rfl rfl
  | swap =>
    unfold shiftBits shifted
    rw [← Byte.eq_ofBits (Byte.bit_swap v)]
    rfl
  | srl => exact shiftBits_of_moveRight false rfl rfl

theorem complement_eq (f : Flags) (v : UInt8) :
    (Byte.ofBits fun i => !bit v i, { f with subtract := true, halfCarry := true }) =
      Alu.complement f v := by
  rw [← Byte.eq_ofBits (Byte.bit_not v)]
  rfl

theorem bit_bitMask : ∀ i j : Fin 8, bit (Alu.bitMask (.ofNat i)) j = decide (j = i) := by
  decide

theorem masked_eq_zero (v : UInt8) (i : Fin 8) :
    (v &&& Alu.bitMask (.ofNat i) == 0) = !bit v i := by
  have hbit (j : Fin 8) : bit (v &&& Alu.bitMask (.ofNat i)) j = (bit v j && decide (j = i)) := by
    rw [Byte.bit_and, bit_bitMask]
  cases h : bit v i with
  | false =>
    have hzero : v &&& Alu.bitMask (.ofNat i) = 0 := by
      apply Byte.ext
      intro j
      rw [hbit]
      by_cases hj : j = i
      · rw [hj, h]
        exact (Nat.zero_testBit i).symm
      · rw [decide_eq_false hj, Bool.and_false]
        exact (Nat.zero_testBit j).symm
    rw [hzero]
    rfl
  | true =>
    apply beq_eq_false_iff_ne.mpr
    intro hzero
    have hset := hbit i
    rw [hzero, h, decide_eq_true rfl] at hset
    exact Bool.false_ne_true ((Nat.zero_testBit i).symm.trans hset)

theorem withBit_true (v : UInt8) (i : Fin 8) : withBit v i true = Alu.setBit (.ofNat i) v := by
  refine (Byte.eq_ofBits fun j => ?_).symm
  unfold Alu.setBit
  rw [Byte.bit_or, bit_bitMask]
  by_cases h : j = i <;> simp [h]

theorem withBit_false (v : UInt8) (i : Fin 8) : withBit v i false = Alu.resetBit (.ofNat i) v := by
  refine (Byte.eq_ofBits fun j => ?_).symm
  unfold Alu.resetBit
  rw [Byte.bit_and, Byte.bit_not, bit_bitMask]
  by_cases h : j = i <;> simp [h]

theorem adjustment_eq (f : Flags) (v : UInt8) :
    adjustment f v =
      (f.halfCarry || (!f.subtract && decide (9 < v.toNat % 16)),
        f.carry || (!f.subtract && decide (0x99 < v.toNat))) := by
  unfold adjustment
  cases f.subtract <;> simp

theorem toNat_decimalCorrection (low high : Bool) :
    ((Alu.decimalCorrection low high).toNat : Int) =
      (if low then 0x06 else 0) + (if high then 0x60 else 0) := by
  cases low <;> cases high <;> rfl

theorem decimalAdjust_eq (f : Flags) (v : UInt8) : decimalAdjust f v = Alu.daa f v := by
  unfold decimalAdjust Alu.daa
  simp only [adjustment_eq, ← toNat_decimalCorrection]
  cases f.subtract with
  | true => simp only [↓reduceIte, ofInt_sub]
  | false => simp only [Bool.false_eq_true, ↓reduceIte, ofInt_add]

end Lr35902.Assembly
