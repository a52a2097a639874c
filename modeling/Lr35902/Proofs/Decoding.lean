import Lr35902.Listing
import Lr35902.Proofs.Byte

/-!
# Decoding

The opcode alone fixes which instruction it is and how long it is (`decode_eq_withOperands`); the
bytes behind it only fill in the operands, and none past the instruction's end counts
(`decode_congr`). So a fact about the form of all instructions is a fact about 256 opcodes, and is
decided by going through them.
-/

namespace Lr35902

namespace Instr

/-- How many bytes an instruction takes up, its opcode included. -/
def length : Instr → Nat
  | .stop | .loadImm .. | .loadHigh _ | .storeHigh _ | .loadHlSp _ | .addSp _ | .aluImm ..
  | .jr _ | .jrIf .. | .cb _ => 2
  | .loadAt _ | .storeAt _ | .loadPair .. | .storeSp _ | .jp _ | .jpIf .. | .call _
  | .callIf .. => 3
  | _ => 1

theorem length_pos (i : Instr) : 0 < i.length := by
  cases i <;> simp [length]

/-- The instruction with the operands that the bytes behind its opcode hold. -/
def withOperands (n : UInt8) (nn : UInt16) : Instr → Instr
  | .loadImm target _ => .loadImm target n
  | .loadAt _ => .loadAt nn
  | .storeAt _ => .storeAt nn
  | .loadHigh _ => .loadHigh n
  | .storeHigh _ => .storeHigh n
  | .loadPair pair _ => .loadPair pair nn
  | .storeSp _ => .storeSp nn
  | .loadHlSp _ => .loadHlSp n
  | .addSp _ => .addSp n
  | .aluImm op _ => .aluImm op n
  | .jp _ => .jp nn
  | .jpIf cc _ => .jpIf cc nn
  | .jr _ => .jr n
  | .jrIf cc _ => .jrIf cc n
  | .call _ => .call nn
  | .callIf cc _ => .callIf cc nn
  | .cb _ => .cb (.decode n)
  | i => i

@[simp] theorem length_withOperands (n : UInt8) (nn : UInt16) (i : Instr) :
    (i.withOperands n nn).length = i.length := by
  cases i <;> rfl

theorem decodeBlock0_eq (y z : Nat) (n : UInt8) (nn : UInt16) :
    decodeBlock0 y z n nn = (decodeBlock0 y z 0 0).withOperands n nn := by
  unfold decodeBlock0
  split
  · split <;> rfl
  all_goals try rfl
  unfold ofFlagBits
  split <;> rfl

theorem decodeBlock3_eq (y : Fin 8) (z : Nat) (n : UInt8) (nn : UInt16) :
    decodeBlock3 y z n nn = (decodeBlock3 y z 0 0).withOperands n nn := by
  unfold decodeBlock3
  split
  all_goals try rfl
  split <;> rfl

theorem decode_eq_withOperands (op n : UInt8) (nn : UInt16) :
    decode op n nn = (decode op 0 0).withOperands n nn := by
  unfold decode
  simp only
  split
  · rfl
  split
  · rfl
  split
  · exact decodeBlock0_eq ..
  · split <;> rfl
  · rfl
  · exact decodeBlock3_eq ..

@[simp] theorem length_decode (op n : UInt8) (nn : UInt16) :
    (decode op n nn).length = Opcode.length op := by
  have all : ∀ op, (decode op 0 0).length = Opcode.length op := by decide +kernel
  rw [decode_eq_withOperands, length_withOperands, all]

/-- Only the bytes an instruction takes up decide what it is. -/
theorem decode_congr {op n n' : UInt8} {nn nn' : UInt16} (h₁ : 1 < Opcode.length op → n = n')
    (h₂ : 2 < Opcode.length op → nn = nn') : decode op n nn = decode op n' nn' := by
  rw [decode_eq_withOperands op n, decode_eq_withOperands op n']
  rw [← length_decode op 0 0] at h₁ h₂
  generalize decode op 0 0 = i at h₁ h₂ ⊢
  cases i <;> simp_all [length, withOperands]

def isPrefixed : Instr → Bool
  | .cb _ => true
  | _ => false

theorem isPrefixed_decode (op n : UInt8) (nn : UInt16) :
    (decode op n nn).isPrefixed = (op == 0xCB) := by
  have h : ∀ op, (decode op 0 0).isPrefixed = (op == 0xCB) := by decide +kernel
  rw [decode_eq_withOperands, ← h]
  cases decode op 0 0 <;> rfl

theorem decode_prefixed (n : UInt8) (nn : UInt16) : decode 0xCB n nn = .cb (.decode n) := rfl

/-- The opcode of an instruction that is none. -/
def illegal? : Instr → Option UInt8
  | .illegal op => some op
  | _ => none

theorem illegal?_decode (op n : UInt8) (nn : UInt16) :
    (decode op n nn).illegal? = if Opcode.isUndefined op then some op else none := by
  have h : ∀ op, (decode op 0 0).illegal? = if Opcode.isUndefined op then some op else none := by
    decide +kernel
  rw [decode_eq_withOperands, ← h]
  cases decode op 0 0 <;> rfl

theorem eq_of_decode_eq_illegal {op op' n : UInt8} {nn : UInt16}
    (h : decode op n nn = .illegal op') : op' = op := by
  have hop := illegal?_decode op n nn
  rw [h] at hop
  split at hop
  · exact Option.some.inj hop
  · cases hop

end Instr

namespace Opcode

/-- What holds of the opcodes in a list, one by one, holds of every opcode in it. -/
@[elab_as_elim] theorem forall_of_mem {motive : UInt8 → Prop} {l : List Nat} (op : UInt8)
    (hop : op.toNat ∈ l) (h : ∀ n ∈ l, motive (.ofNat n)) : motive op := by
  have hmotive := h op.toNat hop
  rwa [UInt8.ofNat_toNat] at hmotive

/-- The opcodes with one byte behind them. -/
def twoBytes : List Nat :=
  [0x10, 0x18, 0x20, 0x28, 0x30, 0x38, 0xCB, 0xE0, 0xE8, 0xF0, 0xF8,
    0x06, 0x0E, 0x16, 0x1E, 0x26, 0x2E, 0x36, 0x3E, 0xC6, 0xCE, 0xD6, 0xDE, 0xE6, 0xEE, 0xF6, 0xFE]

/-- The opcodes with a word behind them. -/
def threeBytes : List Nat :=
  [0x01, 0x08, 0x11, 0x21, 0x31, 0xEA, 0xFA,
    0xC2, 0xC3, 0xC4, 0xCA, 0xCC, 0xCD, 0xD2, 0xD4, 0xDA, 0xDC]

theorem length_eq : ∀ op : UInt8,
    length op = if op.toNat ∈ threeBytes then 3 else if op.toNat ∈ twoBytes then 2 else 1 := by
  decide +kernel

end Opcode

end Lr35902
