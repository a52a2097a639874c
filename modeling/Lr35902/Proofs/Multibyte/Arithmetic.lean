import Lr35902.Proofs.Multibyte.Chain

/-!
# Sums and differences of any length

Chains of `ADC` and of `SBC`. The carry flag they leave is that of the two numbers. The other flags
are those of the highest byte: the half carry flag is what comes out of its low nibble, that is out
of the two numbers without its high nibble (`halfCarry_sum`, `halfCarry_difference`).
-/

namespace Lr35902.Alu

open Radix (binary)

theorem toNat_addWith (carry : Bool) (a b : UInt8) :
    (addWith carry a b).1.toNat = (a.toNat + b.toNat + carry.toNat) % 256 := by
  show (a + b + carry.toUInt8).toNat = _
  rw [UInt8.toNat_add, UInt8.toNat_add, Byte.toNat_flag]
  omega

theorem toNat_subWith (borrow : Bool) (a b : UInt8) :
    (subWith borrow a b).1.toNat = (256 + a.toNat - (b.toNat + borrow.toNat)) % 256 := by
  have := b.toNat_lt
  have := borrow.toNat_lt
  show (a - b - borrow.toUInt8).toNat = _
  rw [UInt8.toNat_sub, UInt8.toNat_sub, Byte.toNat_flag]
  omega

theorem toNat_decide (p : Prop) [Decidable p] : (decide p).toNat = if p then 1 else 0 :=
  apply_ite Bool.toNat p true false

theorem carry_addWith (carry : Bool) (a b : UInt8) :
    (addWith carry a b).2.carry.toNat =
      if 256 ≤ a.toNat + b.toNat + carry.toNat then 1 else 0 :=
  toNat_decide _

theorem carry_subWith (borrow : Bool) (a b : UInt8) :
    (subWith borrow a b).2.carry.toNat = if a.toNat < b.toNat + borrow.toNat then 1 else 0 :=
  toNat_decide _

theorem balanced_adc (x : UInt8 × UInt8) :
    Balanced binary 1 (paired adc) Prod.fst Prod.snd x where
  isDigit _ := trivial
  account f := by
    have := x.1.toNat_lt
    have := x.2.toNat_lt
    have := f.carry.toNat_lt
    show ((addWith f.carry x.1 x.2).1.toNat : Int) +
        1 * (256 * (addWith f.carry x.1 x.2).2.carry.toNat) =
      x.1.toNat + 1 * (x.2.toNat + f.carry.toNat)
    rw [toNat_addWith, carry_addWith]
    split <;> omega

theorem balanced_sbc (x : UInt8 × UInt8) :
    Balanced binary (-1) (paired sbc) Prod.fst Prod.snd x where
  isDigit _ := trivial
  account f := by
    have := x.1.toNat_lt
    have := x.2.toNat_lt
    have := f.carry.toNat_lt
    show ((subWith f.carry x.1 x.2).1.toNat : Int) +
        -1 * (256 * (subWith f.carry x.1 x.2).2.carry.toNat) =
      x.1.toNat + -1 * (x.2.toNat + f.carry.toNat)
    rw [toNat_subWith, carry_subWith]
    split <;> omega

/-! ### The highest byte -/

variable {P X Y a b c : Nat}

theorem mod_of_highest (hX : X < P) : (X + P * a) % (16 * P) = X + P * (a % 16) := by
  have hP : 0 < P := Nat.zero_lt_of_lt hX
  rw [Nat.mul_comm 16 P, Nat.mod_mul, Nat.add_mul_mod_self_left, Nat.mod_eq_of_lt hX,
    Nat.add_mul_div_left _ _ hP, Nat.div_eq_of_lt hX, Nat.zero_add]

/-- The carry out of the low nibble is the carry out of all that lies below the high nibble. -/
theorem halfCarry_sum (hX : X < P) (hY : Y < P) :
    16 * P ≤ (X + P * a) % (16 * P) + (Y + P * b) % (16 * P) + c ↔
      16 ≤ a % 16 + b % 16 + (X + Y + c) / P := by
  have hP : 0 < P := Nat.zero_lt_of_lt hX
  have hsplit : X + P * (a % 16) + (Y + P * (b % 16)) + c =
      X + Y + c + P * (a % 16 + b % 16) := by ring
  rw [mod_of_highest hX, mod_of_highest hY, hsplit, ← Nat.le_div_iff_mul_le hP,
    Nat.add_mul_div_left _ _ hP, Nat.add_comm]

/-- A difference borrows if its highest digits do, counting the borrow of the digits below. -/
theorem borrow_of_highest (hX : X < P) (hY : Y + c ≤ P) :
    X + P * a < Y + P * b + c ↔ a < b + if X < Y + c then 1 else 0 := by
  rcases Nat.lt_trichotomy a b with hlt | rfl | hgt
  · have hle : P * (a + 1) ≤ P * b := Nat.mul_le_mul_left P hlt
    rw [Nat.mul_add_one] at hle
    omega
  · split <;> omega
  · have hle : P * (b + 1) ≤ P * a := Nat.mul_le_mul_left P hgt
    rw [Nat.mul_add_one] at hle
    split <;> omega

theorem halfCarry_difference (hX : X < P) (hY : Y < P) (hc : c ≤ 1) :
    (X + P * a) % (16 * P) < (Y + P * b) % (16 * P) + c ↔
      a % 16 < b % 16 + if X < Y + c then 1 else 0 := by
  rw [mod_of_highest hX, mod_of_highest hY]
  exact borrow_of_highest hX (by omega)

/-! ### Whole numbers -/

variable {as bs : List UInt8}

theorem number_adc (hlen : as.length = bs.length) (f : Flags) :
    let total := binary.number as + binary.number bs + f.carry.toNat
    binary.number (chain₂ adc f as bs).1 = total % 256 ^ as.length ∧
      (chain₂ adc f as bs).2.carry.toNat = total / 256 ^ as.length :=
  number_of_additions₂ hlen (fun x _ => balanced_adc x) f

theorem number_sbc (hlen : as.length = bs.length) (f : Flags) :
    let subtrahend := binary.number bs + f.carry.toNat
    (binary.number (chain₂ sbc f as bs).1 : Int) =
        (binary.number as - subtrahend) % 256 ^ as.length ∧
      ((chain₂ sbc f as bs).2.carry = true ↔ binary.number as < subtrahend) :=
  number_of_subtractions₂ hlen (fun x _ => balanced_sbc x) f

theorem carry_adc (hlen : as.length = bs.length) (f : Flags) :
    (chain₂ adc f as bs).2.carry = true ↔
      256 ^ as.length ≤ binary.number as + binary.number bs + f.carry.toNat := by
  have hone : ∀ b : Bool, b = true ↔ 1 ≤ b.toNat := by decide
  rw [hone, (number_adc hlen f).2, Nat.one_le_div_iff (by positivity)]

theorem halfCarry_adc (hlen : as.length = bs.length) (hne : as ≠ []) (f : Flags) :
    let M := 16 * 256 ^ (as.length - 1)
    (chain₂ adc f as bs).2.halfCarry = true ↔
      M ≤ binary.number as % M + binary.number bs % M + f.carry.toNat := by
  obtain ⟨xs, a, ys, b, rfl, rfl, hlen'⟩ := exists_highest hlen hne
  have hY : binary.number ys < 256 ^ xs.length := hlen' ▸ Radix.binary_lt ys
  intro M
  have hM : M = 16 * 256 ^ xs.length := by simp [M]
  rw [hM, Radix.binary_concat, Radix.binary_concat, ← hlen', halfCarry_sum (Radix.binary_lt xs) hY,
    ← (number_adc hlen' f).2, chain₂_concat hlen' f a b]
  exact decide_eq_true_iff

theorem halfCarry_sbc (hlen : as.length = bs.length) (hne : as ≠ []) (f : Flags) :
    let M := 16 * 256 ^ (as.length - 1)
    (chain₂ sbc f as bs).2.halfCarry = true ↔
      binary.number as % M < binary.number bs % M + f.carry.toNat := by
  obtain ⟨xs, a, ys, b, rfl, rfl, hlen'⟩ := exists_highest hlen hne
  have hY : binary.number ys < 256 ^ xs.length := hlen' ▸ Radix.binary_lt ys
  have hborrow : (if binary.number xs < binary.number ys + f.carry.toNat then 1 else 0) =
      (chain₂ sbc f xs ys).2.carry.toNat := by
    simp only [← (number_sbc hlen' f).2]
    cases (chain₂ sbc f xs ys).2.carry <;> rfl
  intro M
  have hM : M = 16 * 256 ^ xs.length := by simp [M]
  rw [hM, Radix.binary_concat, Radix.binary_concat, ← hlen',
    halfCarry_difference (Radix.binary_lt xs) hY f.carry.toNat_le, hborrow,
    chain₂_concat hlen' f a b]
  exact decide_eq_true_iff

theorem flags_chain₂ (op : Flags → UInt8 → UInt8 → UInt8 × Flags) (subtract : Bool)
    (hzero : ∀ f a b, (op f a b).2.zero = ((op f a b).1 == 0))
    (hsubtract : ∀ f a b, (op f a b).2.subtract = subtract) (hlen : as.length = bs.length)
    (hne : as ≠ []) (f : Flags) :
    ((chain₂ op f as bs).2.zero = true ↔ (chain₂ op f as bs).1.getLast? = some 0) ∧
      (chain₂ op f as bs).2.subtract = subtract := by
  obtain ⟨xs, a, ys, b, rfl, rfl, hlen'⟩ := exists_highest hlen hne
  rw [chain₂_concat hlen' f a b, List.getLast?_concat, hzero, Option.some_inj, beq_iff_eq]
  exact ⟨Iff.rfl, hsubtract ..⟩

/-- Any number of bytes: a chain of `ADC` is an addition and a chain of `SBC` a subtraction, modulo
the numbers of that length, with the carry flag as the carry or borrow of the whole. The half carry
flag is that of the numbers cut off below the highest nibble; the zero flag looks at the highest
byte only. Without a carry at first, the lowest byte may as well go through `ADD` or `SUB`. -/
theorem multibyte_arithmetic (as bs : List UInt8) (f : Flags) (hlen : as.length = bs.length)
    (hne : as ≠ []) :
    let n := as.length
    let A := binary.number as
    let B := binary.number bs
    let c := f.carry.toNat
    let M := 16 * 256 ^ (n - 1)
    let sum := chain₂ adc f as bs
    let diff := chain₂ sbc f as bs
    (sum.1.length = n ∧ binary.number sum.1 = (A + B + c) % 256 ^ n ∧
      (sum.2.carry = true ↔ 256 ^ n ≤ A + B + c) ∧ sum.2.subtract = false ∧
      (sum.2.halfCarry = true ↔ M ≤ A % M + B % M + c) ∧
      (sum.2.zero = true ↔ sum.1.getLast? = some 0)) ∧
    (diff.1.length = n ∧ (binary.number diff.1 : Int) = ((A : Int) - B - c) % 256 ^ n ∧
      (diff.2.carry = true ↔ A < B + c) ∧ diff.2.subtract = true ∧
      (diff.2.halfCarry = true ↔ A % M < B % M + c) ∧
      (diff.2.zero = true ↔ diff.1.getLast? = some 0)) ∧
    (f.carry = false →
      chainFrom (paired fun _ => add) (paired adc) f (as.zip bs) = sum ∧
        chainFrom (paired fun _ => sub) (paired sbc) f (as.zip bs) = diff) := by
  intro n A B c M sum diff
  obtain ⟨hsumZero, hsumSubtract⟩ := flags_chain₂ adc false
    (fun _ _ _ => rfl) (fun _ _ _ => rfl) hlen hne f
  obtain ⟨hdiffZero, hdiffSubtract⟩ := flags_chain₂ sbc true
    (fun _ _ _ => rfl) (fun _ _ _ => rfl) hlen hne f
  have hdiff : (binary.number diff.1 : Int) = ((A : Int) - B - c) % 256 ^ n := by
    rw [Int.sub_sub]
    exact_mod_cast (number_sbc hlen f).1
  refine ⟨⟨length_chain₂ hlen f, (number_adc hlen f).1, carry_adc hlen f, hsumSubtract,
      halfCarry_adc hlen hne f, hsumZero⟩,
    ⟨length_chain₂ hlen f, hdiff, (number_sbc hlen f).2, hdiffSubtract, halfCarry_sbc hlen hne f,
      hdiffZero⟩, ?_⟩
  intro hc
  have hpairs : as.zip bs ≠ [] := by
    rw [Ne, List.zip_eq_nil_iff]
    rintro (h | h)
    · exact hne h
    · exact hne (List.eq_nil_of_length_eq_zero (by rw [hlen, h, List.length_nil]))
  constructor
  · refine chainFrom_eq hpairs fun x _ => ?_
    show addWith false x.1 x.2 = addWith f.carry x.1 x.2
    rw [hc]
  · refine chainFrom_eq hpairs fun x _ => ?_
    show subWith false x.1 x.2 = subWith f.carry x.1 x.2
    rw [hc]

/-- A carry that comes in at the bottom goes through the lowest byte and stops at the low nibble of
the highest; a borrow from the lowest byte goes all the way. -/
theorem multibyte_arithmetic_carry_in :
    let f : Flags := { zero := true, subtract := true, halfCarry := false, carry := true }
    let g : Flags := { f with carry := false }
    let sum := chain₂ adc f [0xFF, 0x0F] [0x00, 0x00]
    let diff := chain₂ sbc f [0xFF, 0x0F] [0xFF, 0x0F]
    binary.number sum.1 = 0x1000 ∧ sum.2.carry = false ∧ sum.2.halfCarry = true ∧
      (binary.number diff.1 : Int) = 0xFFFF ∧ diff.2.carry = true ∧
      chainFrom (paired fun _ => sub) (paired sbc) g [(0x00, 0x01), (0x10, 0x00)] =
        chain₂ sbc g [0x00, 0x10] [0x01, 0x00] := by
  intro f g sum diff
  obtain ⟨⟨-, hsum, hcarry, -, hhalf, -⟩, -⟩ :=
    multibyte_arithmetic [0xFF, 0x0F] [0x00, 0x00] f rfl (by decide)
  obtain ⟨-, ⟨-, hdiff, hborrow, -⟩, -⟩ :=
    multibyte_arithmetic [0xFF, 0x0F] [0xFF, 0x0F] f rfl (by decide)
  obtain ⟨-, -, hfirst⟩ := multibyte_arithmetic [0x00, 0x10] [0x01, 0x00] g rfl (by decide)
  have hnone : sum.2.carry = false := by
    rw [Bool.eq_false_iff, Ne, hcarry]
    decide
  exact ⟨hsum, hnone, hhalf.mpr (by decide), hdiff, hborrow.mpr (by decide), (hfirst rfl).2⟩

end Lr35902.Alu
