import Lr35902.Text.Utf8
import Mathlib.Data.List.Basic

/-!
# UTF-8 read back

Whatever comes behind it, the encoding of a character is decoded to this character
(`decodeFrom_encodeChar`). Its first byte says how many bytes follow (`start_of_two` and on), each
of them is taken for as long as bits are owed, and the last one completes the character. So text is
what its encoding is decoded to (`decode_append`).
-/

namespace Lr35902.Utf8

variable {p : Begun} {b : UInt8} {bs : List UInt8}

theorem decodeFrom_whole {c : Char} (h : start b = .whole c) :
    decodeFrom none (b :: bs) = c :: decodeFrom none bs := by
  simp only [decodeFrom, takeByte, takeFirst, h, List.singleton_append]

theorem decodeFrom_begins (h : start b = .begins p) :
    decodeFrom none (b :: bs) = decodeFrom (some p) bs := by
  simp only [decodeFrom, takeByte, takeFirst, h, List.nil_append]

/-- A byte behind the first of a character, with six bits of it. -/
def trail (n : Nat) : UInt8 := UInt8.ofNat (n % 64 + 0x80)

theorem toNat_trail (n : Nat) : (trail n).toNat = n % 64 + 0x80 :=
  UInt8.toNat_ofNat_of_lt' (by rw [UInt8.size]; omega)

theorem trail_within {low high : UInt8} {n : Nat} (hlow : low.toNat ≤ n % 64 + 0x80)
    (hhigh : n % 64 + 0x80 ≤ high.toNat) : low ≤ trail n ∧ trail n ≤ high := by
  rw [UInt8.le_iff_toNat_le, UInt8.le_iff_toNat_le, toNat_trail]
  exact ⟨hlow, hhigh⟩

theorem trail_range (n : Nat) : 0x80 ≤ trail n ∧ trail n ≤ 0xBF :=
  trail_within (by simp only [UInt8.reduceToNat]; omega) (by simp only [UInt8.reduceToNat]; omega)

theorem bits_trail (n : Nat) : n / 64 * 64 + (trail n).toNat % 64 = n := by
  rw [toNat_trail]
  omega

/-- While more than one byte is owed, a byte adds its bits to those of the ones before it. -/
theorem decodeFrom_next {owed bits n : Nat} {low high : UInt8} (hbits : bits = n / 64)
    (hn : low ≤ trail n ∧ trail n ≤ high) :
    decodeFrom (some ⟨owed + 2, low, high, bits⟩) (trail n :: bs) =
      decodeFrom (some ⟨owed + 1, 0x80, 0xBF, n⟩) bs := by
  have howed : ¬ owed + 2 ≤ 1 := by omega
  simp only [decodeFrom, takeByte, if_pos hn, if_neg howed, hbits, bits_trail, List.nil_append]
  rfl

theorem decodeFrom_last (n : Nat) :
    decodeFrom (some ⟨1, 0x80, 0xBF, n / 64⟩) (trail n :: bs) =
      Char.ofNat n :: decodeFrom none bs := by
  simp only [decodeFrom, takeByte, if_pos (trail_range n), if_pos (Nat.le_refl 1), bits_trail,
    List.singleton_append]

theorem start_of_one {v : Nat} (h : v ≤ 0x7F) : start (UInt8.ofNat v) = .whole (Char.ofNat v) := by
  have hv : (UInt8.ofNat v).toNat = v := UInt8.toNat_ofNat_of_lt' (by rw [UInt8.size]; omega)
  simp only [start, hv]
  rw [if_pos (by omega)]

theorem start_of_two {v : Nat} (hlow : 0x7F < v) (hhigh : v ≤ 0x7FF) :
    start (UInt8.ofNat (v / 64 % 32 + 0xC0)) = .begins ⟨1, 0x80, 0xBF, v / 64⟩ := by
  have hv : (UInt8.ofNat (v / 64 % 32 + 0xC0)).toNat = v / 64 + 0xC0 := by
    rw [UInt8.toNat_ofNat']
    omega
  simp only [start, hv]
  rw [if_neg (by omega), if_neg (by omega), if_pos (by omega), Nat.add_sub_cancel]

theorem start_of_three {v : Nat} (hlow : 0x7FF < v) (hhigh : v ≤ 0xFFFF)
    (hvalid : v < 0xD800 ∨ 0xDFFF < v) :
    ∃ low high, start (UInt8.ofNat (v / 4096 % 16 + 0xE0)) = .begins ⟨2, low, high, v / 4096⟩ ∧
      low ≤ trail (v / 64) ∧ trail (v / 64) ≤ high := by
  have hv : (UInt8.ofNat (v / 4096 % 16 + 0xE0)).toNat = v / 4096 + 0xE0 := by
    rw [UInt8.toNat_ofNat']
    omega
  have hlead : v / 4096 = 0 ∨ v / 4096 = 13 ∨ v / 4096 ≠ 0 ∧ v / 4096 ≠ 13 := by omega
  rcases hlead with h | h | ⟨h0, h13⟩
  · refine ⟨0xA0, 0xBF, by simp [start, h], trail_within ?_ ?_⟩ <;>
      simp only [UInt8.reduceToNat] <;> omega
  · refine ⟨0x80, 0x9F, by simp [start, h], trail_within ?_ ?_⟩ <;>
      simp only [UInt8.reduceToNat] <;> omega
  · refine ⟨0x80, 0xBF, ?_, trail_range _⟩
    simp only [start, hv]
    rw [if_neg (by omega), if_neg (by omega), if_neg (by omega), if_neg (by omega),
      if_neg (by omega), if_pos (by omega), Nat.add_sub_cancel]

theorem start_of_four {v : Nat} (hlow : 0xFFFF < v) (hhigh : v < 0x110000) :
    ∃ low high, start (UInt8.ofNat (v / 262144 % 8 + 0xF0)) = .begins ⟨3, low, high, v / 262144⟩ ∧
      low ≤ trail (v / 4096) ∧ trail (v / 4096) ≤ high := by
  have hv : (UInt8.ofNat (v / 262144 % 8 + 0xF0)).toNat = v / 262144 + 0xF0 := by
    rw [UInt8.toNat_ofNat']
    omega
  have hlead : v / 262144 = 0 ∨ v / 262144 = 4 ∨ v / 262144 ≠ 0 ∧ v / 262144 < 4 := by omega
  rcases hlead with h | h | ⟨h0, h4⟩
  · refine ⟨0x90, 0xBF, by simp [start, h], trail_within ?_ ?_⟩ <;>
      simp only [UInt8.reduceToNat] <;> omega
  · refine ⟨0x80, 0x8F, by simp [start, h], trail_within ?_ ?_⟩ <;>
      simp only [UInt8.reduceToNat] <;> omega
  · refine ⟨0x80, 0xBF, ?_, trail_range _⟩
    simp only [start, hv]
    rw [if_neg (by omega), if_neg (by omega), if_neg (by omega), if_neg (by omega),
      if_neg (by omega), if_neg (by omega), if_neg (by omega), if_pos (by omega),
      Nat.add_sub_cancel]

theorem decodeFrom_encodeChar (c : Char) (bs : List UInt8) :
    decodeFrom none (String.utf8EncodeChar c ++ bs) = c :: decodeFrom none bs := by
  have hvalid : c.val.toNat < 0xD800 ∨ 0xDFFF < c.val.toNat ∧ c.val.toNat < 0x110000 := c.valid
  have hchar : Char.ofNat c.val.toNat = c := Char.ofNat_toNat c
  simp only [String.utf8EncodeChar]
  generalize c.val.toNat = v at *
  split_ifs with h1 h2 h3
  · rw [List.singleton_append, decodeFrom_whole (start_of_one h1), hchar]
  · show decodeFrom none (_ :: trail v :: bs) = _
    rw [decodeFrom_begins (start_of_two (by omega) h2), decodeFrom_last, hchar]
  · show decodeFrom none (_ :: trail (v / 64) :: trail v :: bs) = _
    obtain ⟨low, high, hstart, hsecond⟩ := start_of_three (v := v) (by omega) h3 (by omega)
    rw [decodeFrom_begins hstart, decodeFrom_next (Nat.div_div_eq_div_mul v 64 64).symm hsecond,
      decodeFrom_last, hchar]
  · show decodeFrom none (_ :: trail (v / 4096) :: trail (v / 64) :: trail v :: bs) = _
    obtain ⟨low, high, hstart, hsecond⟩ := start_of_four (v := v) (by omega) (by omega)
    rw [decodeFrom_begins hstart, decodeFrom_next (Nat.div_div_eq_div_mul v 4096 64).symm hsecond,
      decodeFrom_next (Nat.div_div_eq_div_mul v 64 64).symm (trail_range _), decodeFrom_last, hchar]

theorem toList_toUTF8 (s : String) :
    s.toUTF8.data.toList = s.toList.flatMap String.utf8EncodeChar := by
  rw [String.toUTF8_eq_toByteArray, ← String.utf8Encode_toList, List.utf8Encode,
    List.toList_data_toByteArray]

/-- Text is what its encoding is decoded to, and what comes behind it is decoded by itself. -/
theorem decode_append (s : String) (bs : List UInt8) :
    decode (s.toUTF8.data.toList ++ bs) = s.toList ++ decode bs := by
  rw [toList_toUTF8]
  induction s.toList with
  | nil => rfl
  | cons c cs ih =>
    rw [List.flatMap_cons, List.append_assoc, decode, decodeFrom_encodeChar, List.cons_append]
    exact congrArg (c :: ·) ih

theorem decode_replicate_zero (n : Nat) :
    decode (List.replicate n 0) = List.replicate n '\x00' := by
  have hzero : start 0 = .whole '\x00' := rfl
  induction n with
  | zero => rfl
  | succ n ih =>
    rw [List.replicate_succ, List.replicate_succ, decode, decodeFrom_whole hzero]
    exact congrArg ('\x00' :: ·) ih

end Lr35902.Utf8
