/-!
# Bytes and words

A word is two bytes, the high one first. An offset is a byte read in two's complement; it is added
to a word either modulo 2^16 (`addOffset`) or exactly (`addOffset?`), where a sum outside the
address space is refused.
-/

namespace Lr35902.Word

/-- The word with the given halves. -/
def ofBytes (high low : UInt8) : UInt16 := high.toUInt16 * 256 + low.toUInt16

def high (w : UInt16) : UInt8 := (w / 256).toUInt8

def low (w : UInt16) : UInt8 := w.toUInt8

def succ? (w : UInt16) : Option UInt16 := if w = 0xFFFF then none else some (w + 1)

def pred? (w : UInt16) : Option UInt16 := if w = 0 then none else some (w - 1)

/-- A byte in two's complement: `-128` to `127`. -/
def signed (b : UInt8) : Int := if b < 128 then (b.toNat : Int) else (b.toNat : Int) - 256

/-- The sign of an offset, extended to a whole byte. -/
def signByte (b : UInt8) : UInt8 := if b < 128 then 0x00 else 0xFF

/-- A word plus an offset, modulo 2^16. -/
def addOffset (w : UInt16) (b : UInt8) : UInt16 := w + ofBytes (signByte b) b

/-- A word plus an offset, as long as the sum is a word. -/
def addOffset? (w : UInt16) (b : UInt8) : Option UInt16 :=
  let sum := (w.toNat : Int) + signed b
  if 0 ≤ sum ∧ sum < 65536 then some (addOffset w b) else none

theorem toNat_ofBytes (high low : UInt8) :
    (ofBytes high low).toNat = 256 * high.toNat + low.toNat := by
  have := high.toNat_lt; have := low.toNat_lt
  simp only [ofBytes, UInt16.toNat_add, UInt16.toNat_mul, UInt8.toNat_toUInt16,
    UInt16.reduceToNat]
  omega

theorem toNat_high (w : UInt16) : (high w).toNat = w.toNat / 256 := by
  have := w.toNat_lt
  simp only [high, UInt16.toNat_toUInt8, UInt16.toNat_div, UInt16.reduceToNat]
  omega

theorem toNat_low (w : UInt16) : (low w).toNat = w.toNat % 256 := by
  simp [low]

theorem shiftLeft_or (high low : UInt8) :
    (high.toUInt16 <<< 8 ||| low.toUInt16) = ofBytes high low := by
  have hhigh := high.toNat_lt; have hlow := low.toNat_lt
  apply UInt16.toNat_inj.mp
  rw [toNat_ofBytes, UInt16.toNat_or, UInt16.toNat_shiftLeft, UInt8.toNat_toUInt16,
    UInt8.toNat_toUInt16]
  show high.toNat <<< 8 % 65536 ||| low.toNat = _
  rw [Nat.mod_eq_of_lt (by rw [Nat.shiftLeft_eq]; omega), ← Nat.shiftLeft_add_eq_or_of_lt hlow,
    Nat.shiftLeft_eq]
  omega

@[simp] theorem high_ofBytes (h l : UInt8) : high (ofBytes h l) = h := by
  have := l.toNat_lt
  apply UInt8.toNat_inj.mp
  rw [toNat_high, toNat_ofBytes]
  omega

@[simp] theorem low_ofBytes (h l : UInt8) : low (ofBytes h l) = l := by
  have := l.toNat_lt
  apply UInt8.toNat_inj.mp
  rw [toNat_low, toNat_ofBytes]
  omega

@[simp] theorem ofBytes_high_low (w : UInt16) : ofBytes (high w) (low w) = w := by
  apply UInt16.toNat_inj.mp
  rw [toNat_ofBytes, toNat_high, toNat_low]
  omega

end Lr35902.Word
