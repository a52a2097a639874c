import Lr35902.Text.Numeral
import Mathlib.Algebra.Group.Nat.Defs

/-!
# Numerals read back

Every number is the value of the numeral written for it: in hexadecimal up to the digits that the
width cuts off (`readHex_hexDigits`), in decimal exactly (`readDigits_toDigits`). No numeral holds
anything but letters and digits, its sign apart.
-/

namespace Lr35902.Numeral

/-! ### Hexadecimal -/

/-- The value of an upper-case hexadecimal digit. -/
def hexValue? (c : Char) : Option Nat :=
  if c.isDigit then some (c.toNat - 48)
  else if 'A' ≤ c ∧ c ≤ 'F' then some (c.toNat - 55)
  else none

/-- The value of hexadecimal digits read behind the value so far. -/
def readHex (value : Nat) : List Char → Option Nat
  | [] => some value
  | c :: cs =>
    match hexValue? c with
    | some d => readHex (16 * value + d) cs
    | none => none

theorem hexValue?_hexDigit : ∀ n < 16, hexValue? (hexDigit n) = some n := by
  decide

theorem isAlphanum_hexDigit : ∀ n < 16, (hexDigit n).isAlphanum = true := by
  decide

theorem readHex_append (value : Nat) (cs ds : List Char) :
    readHex value (cs ++ ds) = (readHex value cs).bind (readHex · ds) := by
  induction cs generalizing value with
  | nil => rfl
  | cons c cs ih =>
    simp only [List.cons_append, readHex]
    cases hexValue? c with
    | none => rfl
    | some d => exact ih _

theorem readHex_hexDigits (width n : Nat) :
    readHex 0 (hexDigits width n) = some (n % 16 ^ width) := by
  induction width generalizing n with
  | zero => simp [hexDigits, readHex, Nat.mod_one]
  | succ w ih =>
    have hlast : n % 16 < 16 := Nat.mod_lt _ (by omega)
    have hsplit : n % 16 ^ (w + 1) = 16 * (n / 16 % 16 ^ w) + n % 16 := by
      rw [Nat.pow_succ', Nat.mod_mul]
      omega
    rw [hexDigits, readHex_append, ih]
    simp only [Option.bind_some, readHex, hexValue?_hexDigit _ hlast, hsplit]

theorem eq_of_hex_eq {width m n : Nat} (hm : m < 16 ^ width) (hn : n < 16 ^ width)
    (h : hex width m = hex width n) : m = n := by
  have hread := readHex_hexDigits width m
  rw [String.ofList_inj.mp h, readHex_hexDigits, Nat.mod_eq_of_lt hm, Nat.mod_eq_of_lt hn] at hread
  exact (Option.some.inj hread).symm

theorem isAlphanum_of_mem_hexDigits {width n : Nat} {c : Char} (h : c ∈ hexDigits width n) :
    c.isAlphanum = true := by
  induction width generalizing n with
  | zero => cases h
  | succ w ih =>
    rw [hexDigits, List.mem_append, List.mem_singleton] at h
    rcases h with h | rfl
    · exact ih h
    · exact isAlphanum_hexDigit _ (Nat.mod_lt n (by omega))

theorem not_mem_hexDigits {c : Char} (hc : c.isAlphanum = false) (width n : Nat) :
    c ∉ hexDigits width n := by
  intro h
  rw [isAlphanum_of_mem_hexDigits h] at hc
  cases hc

/-! ### Decimal -/

theorem readDigits_of_isDigit {cs : List Char} (h : ∀ c ∈ cs, c.isDigit = true) (value : Nat) :
    readDigits value cs = some (Nat.ofDigitChars 10 cs value) := by
  induction cs generalizing value with
  | nil => simp [readDigits]
  | cons c cs ih =>
    have hc : c.isDigit = true := h c List.mem_cons_self
    have hcs : ∀ d ∈ cs, d.isDigit = true := fun d hd => h d (List.mem_cons_of_mem c hd)
    rw [readDigits, if_pos hc, ih hcs, Nat.ofDigitChars_cons]
    rfl

theorem readDigits_toDigits (n : Nat) : readDigits 0 (Nat.toDigits 10 n) = some n := by
  have h : ∀ c ∈ Nat.toDigits 10 n, c.isDigit = true := fun c hc =>
    Nat.isDigit_of_mem_toDigits (by omega) (by omega) hc
  rw [readDigits_of_isDigit h, Nat.ofDigitChars_ten_toDigits]

@[simp] theorem decimal_inj {m n : Nat} : decimal m = decimal n ↔ m = n := by
  constructor
  · intro h
    have hm := readDigits_toDigits m
    rw [String.ofList_inj.mp h, readDigits_toDigits] at hm
    exact (Option.some.inj hm).symm
  · rintro rfl
    rfl

theorem readUnsigned_toDigits (n : Nat) : readUnsigned (Nat.toDigits 10 n) = some n := by
  have hread := readDigits_toDigits n
  cases hdigits : Nat.toDigits 10 n with
  | nil => exact absurd hdigits Nat.toDigits_ne_nil
  | cons c cs =>
    have hc : c.isDigit = true :=
      Nat.isDigit_of_mem_toDigits (by omega) (by omega) (hdigits ▸ List.mem_cons_self)
    rw [hdigits] at hread
    unfold readUnsigned
    split
    · rename_i heq
      cases heq
    · rename_i heq
      cases heq
      cases hc
    · rename_i heq
      cases heq
      cases hc
    · exact hread

theorem isAlphanum_of_mem_toDigits {n : Nat} {c : Char} (h : c ∈ Nat.toDigits 10 n) :
    c.isAlphanum = true := by
  have hd : c.isDigit = true := Nat.isDigit_of_mem_toDigits (by omega) (by omega) h
  simp [Char.isAlphanum, hd]

theorem not_mem_toDigits {c : Char} (hc : c.isAlphanum = false) (n : Nat) :
    c ∉ Nat.toDigits 10 n := by
  intro h
  rw [isAlphanum_of_mem_toDigits h] at hc
  cases hc

end Lr35902.Numeral
