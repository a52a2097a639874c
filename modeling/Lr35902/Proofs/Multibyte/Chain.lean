import Mathlib.Data.Nat.Digits.Defs
import Mathlib.Tactic.LinearCombination
import Lr35902.Alu
import Lr35902.Proofs.Byte

/-!
# Chains of calls

A number longer than a byte goes through the arithmetic unit byte by byte, and what one call tells
the next is the carry flag (`chain`). If every call balances, the digit it returns and the carry it
hands on against its operands and the carry it finds, then so does the chain (`account_chain`): byte
additions make up the addition of two numbers, byte subtractions their subtraction
(`number_of_additions`, `number_of_subtractions`).
-/

namespace Lr35902

/-- A way to write numbers in bytes: which bytes are digits and what they are worth. -/
structure Radix where
  base : Nat
  one_lt : 1 < base
  IsDigit : UInt8 → Prop
  digit : UInt8 → Nat
  digit_lt : ∀ {b}, IsDigit b → digit b < base

namespace Radix

def binary : Radix where
  base := 256
  one_lt := by decide
  IsDigit _ := True
  digit := UInt8.toNat
  digit_lt _ := UInt8.toNat_lt _

/-- The number with the given digits, the lowest first. -/
def number (R : Radix) (bs : List UInt8) : Nat := Nat.ofDigits R.base (bs.map R.digit)

variable (R : Radix)

@[simp] theorem number_nil : R.number [] = 0 := rfl

@[simp] theorem number_cons (b : UInt8) (bs : List UInt8) :
    R.number (b :: bs) = R.digit b + R.base * R.number bs :=
  Nat.ofDigits_cons

theorem number_concat (bs : List UInt8) (b : UInt8) :
    R.number (bs ++ [b]) = R.number bs + R.base ^ bs.length * R.digit b := by
  unfold number
  rw [List.map_append, Nat.ofDigits_append, List.length_map, List.map_singleton,
    Nat.ofDigits_singleton]

theorem number_lt {bs : List UInt8} (h : ∀ b ∈ bs, R.IsDigit b) :
    R.number bs < R.base ^ bs.length := by
  have hdigits : ∀ d ∈ bs.map R.digit, d < R.base := by
    intro d hd
    obtain ⟨b, hb, rfl⟩ := List.mem_map.mp hd
    exact R.digit_lt (h b hb)
  unfold number
  rw [← bs.length_map (f := R.digit)]
  exact Nat.ofDigits_lt_base_pow_length R.one_lt hdigits

theorem binary_concat (bs : List UInt8) (b : UInt8) :
    binary.number (bs ++ [b]) = binary.number bs + 256 ^ bs.length * b.toNat :=
  binary.number_concat bs b

theorem binary_lt (bs : List UInt8) : binary.number bs < 256 ^ bs.length :=
  binary.number_lt fun _ _ => trivial

/-- As many bytes with the same value are the same bytes. -/
theorem eq_of_binary {xs ys : List UInt8} (hlen : xs.length = ys.length)
    (h : binary.number xs = binary.number ys) : xs = ys := by
  have hdigits : ∀ bs : List UInt8, ∀ d ∈ bs.map UInt8.toNat, d < 256 := by
    intro bs d hd
    obtain ⟨b, -, rfl⟩ := List.mem_map.mp hd
    exact b.toNat_lt
  have hmap : xs.map UInt8.toNat = ys.map UInt8.toNat :=
    Nat.ofDigits_inj_of_len_eq (by decide) (by rw [List.length_map, List.length_map, hlen])
      (hdigits xs) (hdigits ys) h
  exact (List.map_inj_right fun _ _ => UInt8.toNat_inj.mp).mp hmap

end Radix

namespace Alu

variable {α : Type} {call : Flags → α → UInt8 × Flags} {left right : α → UInt8} {R : Radix}

/-! ### Chains -/

/-- One call for each operand, each with the flags that the one before left. -/
def chain (call : Flags → α → UInt8 × Flags) (f : Flags) : List α → List UInt8 × Flags
  | [] => ([], f)
  | x :: xs =>
    let r := call f x
    let rest := chain call r.2 xs
    (r.1 :: rest.1, rest.2)

/-- A chain whose first call is another one. -/
def chainFrom (first call : Flags → α → UInt8 × Flags) (f : Flags) :
    List α → List UInt8 × Flags
  | [] => ([], f)
  | x :: xs =>
    let r := first f x
    let rest := chain call r.2 xs
    (r.1 :: rest.1, rest.2)

@[simp] theorem chain_nil (f : Flags) : chain call f [] = ([], f) := rfl

theorem chain_cons (f : Flags) (x : α) (xs : List α) :
    chain call f (x :: xs) =
      ((call f x).1 :: (chain call (call f x).2 xs).1, (chain call (call f x).2 xs).2) := rfl

@[simp] theorem length_chain (f : Flags) (xs : List α) :
    (chain call f xs).1.length = xs.length := by
  induction xs generalizing f with
  | nil => rfl
  | cons x xs ih => rw [chain_cons, List.length_cons, ih, List.length_cons]

theorem chain_concat (f : Flags) (xs : List α) (x : α) :
    chain call f (xs ++ [x]) =
      ((chain call f xs).1 ++ [(call (chain call f xs).2 x).1],
        (call (chain call f xs).2 x).2) := by
  induction xs generalizing f with
  | nil => rfl
  | cons y ys ih => rw [List.cons_append, chain_cons, ih]; rfl

/-- The first call may be any that does the same. -/
theorem chainFrom_eq {first : Flags → α → UInt8 × Flags} {f g : Flags} {xs : List α}
    (hne : xs ≠ []) (h : ∀ x ∈ xs.head?, first f x = call g x) :
    chainFrom first call f xs = chain call g xs := by
  cases xs with
  | nil => exact absurd rfl hne
  | cons x xs =>
    simp only [chainFrom, chain_cons, h x rfl]

/-! ### Balanced calls -/

/-- A call that adds the digits of its operand, with `sign` 1, or takes one from the other, with
`sign` -1: the digit it returns and the carry it hands on balance them and the carry it finds. -/
structure Balanced (R : Radix) (sign : Int) (call : Flags → α → UInt8 × Flags)
    (left right : α → UInt8) (x : α) : Prop where
  isDigit : ∀ f, R.IsDigit (call f x).1
  account : ∀ f, (R.digit (call f x).1 : Int) + sign * (R.base * (call f x).2.carry.toNat) =
    R.digit (left x) + sign * (R.digit (right x) + f.carry.toNat)

theorem isDigit_chain {sign : Int} {xs : List α}
    (h : ∀ x ∈ xs, Balanced R sign call left right x) (f : Flags) :
    ∀ b ∈ (chain call f xs).1, R.IsDigit b := by
  induction xs generalizing f with
  | nil => exact fun _ hb => absurd hb List.not_mem_nil
  | cons x xs ih =>
    rw [List.forall_mem_cons] at h
    rw [chain_cons, List.forall_mem_cons]
    exact ⟨h.1.isDigit f, ih h.2 _⟩

/-- The carries in between cancel out. -/
theorem account_chain {sign : Int} {xs : List α}
    (h : ∀ x ∈ xs, Balanced R sign call left right x) (f : Flags) :
    (R.number (chain call f xs).1 : Int) +
        sign * (R.base ^ xs.length * (chain call f xs).2.carry.toNat) =
      R.number (xs.map left) + sign * (R.number (xs.map right) + f.carry.toNat) := by
  induction xs generalizing f with
  | nil => simp
  | cons x xs ih =>
    rw [List.forall_mem_cons] at h
    have hx := h.1.account f
    have hxs := ih h.2 (call f x).2
    rw [chain_cons]
    simp only [List.map_cons, List.length_cons, Radix.number_cons, Nat.cast_add, Nat.cast_mul,
      pow_succ]
    linear_combination hx + R.base * hxs

theorem number_chain_lt {sign : Int} {xs : List α}
    (h : ∀ x ∈ xs, Balanced R sign call left right x) (f : Flags) :
    R.number (chain call f xs).1 < R.base ^ xs.length := by
  have := R.number_lt (isDigit_chain h f)
  rwa [length_chain] at this

theorem number_of_additions {xs : List α} (h : ∀ x ∈ xs, Balanced R 1 call left right x)
    (f : Flags) :
    let total := R.number (xs.map left) + R.number (xs.map right) + f.carry.toNat
    R.number (chain call f xs).1 = total % R.base ^ xs.length ∧
      (chain call f xs).2.carry.toNat = total / R.base ^ xs.length := by
  intro total
  have hlt := number_chain_lt h f
  have hpos : 0 < R.base ^ xs.length := Nat.zero_lt_of_lt hlt
  have hsum : R.number (chain call f xs).1 +
      R.base ^ xs.length * (chain call f xs).2.carry.toNat = total := by
    have haccount := account_chain h f
    rw [one_mul, one_mul, ← add_assoc] at haccount
    exact_mod_cast haccount
  constructor
  · rw [← hsum, Nat.add_mul_mod_self_left, Nat.mod_eq_of_lt hlt]
  · rw [← hsum, Nat.add_mul_div_left _ _ hpos, Nat.div_eq_of_lt hlt, Nat.zero_add]

theorem number_of_subtractions {xs : List α} (h : ∀ x ∈ xs, Balanced R (-1) call left right x)
    (f : Flags) :
    let minuend := R.number (xs.map left)
    let subtrahend := R.number (xs.map right) + f.carry.toNat
    (R.number (chain call f xs).1 : Int) = (minuend - subtrahend) % R.base ^ xs.length ∧
      ((chain call f xs).2.carry = true ↔ minuend < subtrahend) := by
  intro minuend subtrahend
  have hlt := number_chain_lt h f
  have haccount := account_chain h f
  have hdiff : (minuend : Int) - subtrahend = R.number (chain call f xs).1 +
      R.base ^ xs.length * -((chain call f xs).2.carry.toNat : Int) := by
    have hsub : (subtrahend : Int) = R.number (xs.map right) + f.carry.toNat := Nat.cast_add ..
    rw [hsub]
    linear_combination -haccount
  refine ⟨?_, ?_⟩
  · rw [hdiff, Int.add_mul_emod_self_left, Int.emod_eq_of_lt (Int.natCast_nonneg _)]
    exact_mod_cast hlt
  · cases hc : (chain call f xs).2.carry with
    | false =>
      rw [hc, Bool.toNat_false, Nat.cast_zero, neg_zero, mul_zero, add_zero] at hdiff
      simp only [Bool.false_eq_true, false_iff]
      omega
    | true =>
      have hlt' : (R.number (chain call f xs).1 : Int) < R.base ^ xs.length := by
        exact_mod_cast hlt
      rw [hc, Bool.toNat_true, Nat.cast_one, mul_neg_one] at hdiff
      simp only [true_iff]
      omega

variable {op : Flags → UInt8 → UInt8 → UInt8 × Flags} {as bs : List UInt8}

/-- A routine of two operands, as a call. -/
abbrev paired (op : Flags → UInt8 → UInt8 → UInt8 × Flags) (f : Flags) (x : UInt8 × UInt8) :
    UInt8 × Flags :=
  op f x.1 x.2

/-- A chain over two numbers, digit by digit. -/
def chain₂ (op : Flags → UInt8 → UInt8 → UInt8 × Flags) (f : Flags) (as bs : List UInt8) :
    List UInt8 × Flags :=
  chain (paired op) f (as.zip bs)

theorem length_chain₂ (hlen : as.length = bs.length) (f : Flags) :
    (chain₂ op f as bs).1.length = as.length := by
  unfold chain₂
  rw [length_chain, List.length_zip, hlen, Nat.min_self]

theorem chain₂_concat (hlen : as.length = bs.length) (f : Flags) (a b : UInt8) :
    chain₂ op f (as ++ [a]) (bs ++ [b]) =
      ((chain₂ op f as bs).1 ++ [(op (chain₂ op f as bs).2 a b).1],
        (op (chain₂ op f as bs).2 a b).2) := by
  unfold chain₂
  rw [List.zip_append hlen]
  exact chain_concat f (as.zip bs) (a, b)

/-- Numbers of the same length have their highest digits in the same place. -/
theorem exists_highest (hlen : as.length = bs.length) (hne : as ≠ []) :
    ∃ xs a ys b, as = xs ++ [a] ∧ bs = ys ++ [b] ∧ xs.length = ys.length := by
  have hne' : bs ≠ [] := by
    rintro rfl
    exact hne (List.eq_nil_of_length_eq_zero hlen)
  refine ⟨as.dropLast, as.getLast hne, bs.dropLast, bs.getLast hne',
    (List.dropLast_concat_getLast hne).symm, (List.dropLast_concat_getLast hne').symm, ?_⟩
  rw [List.length_dropLast, List.length_dropLast, hlen]

theorem number_of_additions₂ (hlen : as.length = bs.length)
    (h : ∀ x ∈ as.zip bs, Balanced R 1 (paired op) Prod.fst Prod.snd x) (f : Flags) :
    let total := R.number as + R.number bs + f.carry.toNat
    R.number (chain₂ op f as bs).1 = total % R.base ^ as.length ∧
      (chain₂ op f as bs).2.carry.toNat = total / R.base ^ as.length := by
  have hsum := number_of_additions h f
  rwa [List.map_fst_zip hlen.le, List.map_snd_zip hlen.ge, List.length_zip, ← hlen,
    Nat.min_self] at hsum

theorem number_of_subtractions₂ (hlen : as.length = bs.length)
    (h : ∀ x ∈ as.zip bs, Balanced R (-1) (paired op) Prod.fst Prod.snd x) (f : Flags) :
    let subtrahend := R.number bs + f.carry.toNat
    (R.number (chain₂ op f as bs).1 : Int) = (R.number as - subtrahend) % R.base ^ as.length ∧
      ((chain₂ op f as bs).2.carry = true ↔ R.number as < subtrahend) := by
  have hdiff := number_of_subtractions h f
  rwa [List.map_fst_zip hlen.le, List.map_snd_zip hlen.ge, List.length_zip, ← hlen,
    Nat.min_self] at hdiff

end Alu

end Lr35902
