import Lr35902.Proofs.Assembly.Reading
import Lr35902.Proofs.Decoding

/-!
# Assembling

From statements back to bytes. `Statement.opcode` says which opcode a statement has, with no
reference to decoding, and `Statement.operands` which bytes stand behind it. Assembling the mnemonic
that the disassembler gives for an address yields the bytes there (`assemble_disassemble`), so that
a mnemonic and the bytes of its instruction determine each other (`mnemonic_eq_iff`). Only the byte
behind the opcode of `STOP` is in no mnemonic.
-/

namespace Lr35902

/-! ### Opcode fields -/

def Reg8.field : Reg8 → UInt8
  | .b => 0
  | .c => 1
  | .d => 2
  | .e => 3
  | .h => 4
  | .l => 5
  | .a => 7

/-- `AF` on the stack has the number that `SP` has elsewhere. -/
def Reg16.field : Reg16 → UInt8
  | .bc => 0
  | .de => 1
  | .hl => 2
  | .sp | .af => 3

def Condition.field : Condition → UInt8
  | .notZero => 0
  | .zero => 1
  | .notCarry => 2
  | .carry => 3

def AluOp.field : AluOp → UInt8
  | .add => 0
  | .adc => 1
  | .sub => 2
  | .sbc => 3
  | .and => 4
  | .xor => 5
  | .or => 6
  | .cp => 7

def ShiftOp.field : ShiftOp → UInt8
  | .rlc => 0
  | .rrc => 1
  | .rl => 2
  | .rr => 3
  | .sla => 4
  | .sra => 5
  | .swap => 6
  | .srl => 7

namespace Assembly

/-- The place among the eight byte operands. -/
def Place.field : Place → UInt8
  | .reg r => r.field
  | .mem _ => 6

/-- The opcode that stores the accumulator at an address. -/
def Address.storing : Address → UInt8
  | .bc => 0x02
  | .de => 0x12
  | .hl => 0x77
  | .hlUp => 0x22
  | .hlDown => 0x32
  | .word _ => 0xEA
  | .page _ => 0xE0
  | .pageC => 0xE2

def Address.loading : Address → UInt8
  | .bc => 0x0A
  | .de => 0x1A
  | .hl => 0x7E
  | .hlUp => 0x2A
  | .hlDown => 0x3A
  | .word _ => 0xFA
  | .page _ => 0xF0
  | .pageC => 0xF2

def loadOpcode : Place → Source → UInt8
  | target, .imm _ => 0x06 + 8 * target.field
  | .reg r, .place (.reg s) => 0x40 + 8 * r.field + s.field
  | .mem .hl, .place (.reg s) => 0x70 + s.field
  | .reg r, .place (.mem .hl) => 0x46 + 8 * r.field
  | .mem a, _ => a.storing
  | _, .place (.mem a) => a.loading

def BitOp.opcode (p : Place) : BitOp → UInt8
  | .shift op => 8 * op.field + p.field
  | .test i => 0x40 + 8 * .ofNat i + p.field
  | .reset i => 0x80 + 8 * .ofNat i + p.field
  | .set i => 0xC0 + 8 * .ofNat i + p.field

/-- What a statement has for its first byte. -/
def Statement.opcode : Statement → UInt8
  | .nop => 0x00
  | .stop => 0x10
  | .halt => 0x76
  | .di => 0xF3
  | .ei => 0xFB
  | .ld target source => loadOpcode target source
  | .ldWord pair _ => 0x01 + 16 * pair.field
  | .ldSpHl => 0xF9
  | .ldHlSp _ => 0xF8
  | .storeSp _ => 0x08
  | .push pair => 0xC5 + 16 * pair.field
  | .pop pair => 0xC1 + 16 * pair.field
  | .arith op (.place p) => 0x80 + 8 * op.field + p.field
  | .arith op (.imm _) => 0xC6 + 8 * op.field
  | .inc p => 0x04 + 8 * p.field
  | .dec p => 0x05 + 8 * p.field
  | .incWord pair => 0x03 + 16 * pair.field
  | .decWord pair => 0x0B + 16 * pair.field
  | .addHl pair => 0x09 + 16 * pair.field
  | .addSp _ => 0xE8
  | .rotate op => 0x07 + 8 * op.field
  | .daa => 0x27
  | .cpl => 0x2F
  | .scf => 0x37
  | .ccf => 0x3F
  | .jp none _ => 0xC3
  | .jp (some cc) _ => 0xC2 + 8 * cc.field
  | .jpHl => 0xE9
  | .jr none _ => 0x18
  | .jr (some cc) _ => 0x20 + 8 * cc.field
  | .call none _ => 0xCD
  | .call (some cc) _ => 0xC4 + 8 * cc.field
  | .ret none => 0xC9
  | .ret (some cc) => 0xC0 + 8 * cc.field
  | .reti => 0xD9
  | .rst target => 0xC7 + target
  | .bits .. => 0xCB
  | .db n => n

def wordBytes (nn : UInt16) : List UInt8 := [Word.low nn, Word.high nn]

def Place.bytes : Place → List UInt8
  | .mem (.word nn) => wordBytes nn
  | .mem (.page n) => [n]
  | _ => []

def Source.bytes : Source → List UInt8
  | .place p => p.bytes
  | .imm n => [n]

/-- The bytes behind the opcode of a statement, as far as it says what they are. -/
def Statement.operands : Statement → List UInt8
  | .ld target source => target.bytes ++ source.bytes
  | .arith _ source => source.bytes
  | .ldWord _ nn | .storeSp nn | .jp _ nn | .call _ nn => wordBytes nn
  | .ldHlSp offset | .addSp offset | .jr _ offset => [UInt8.ofInt offset]
  | .bits op p => [op.opcode p]
  | _ => []

def Statement.encode (s : Statement) : List UInt8 := s.opcode :: s.operands

/-- The bytes that a statement stands for. -/
def assemble (text : String) : Option (List UInt8) := (read text).map Statement.encode

theorem ofInt_signed (n : UInt8) : UInt8.ofInt (Word.signed n) = n := by
  have hn := n.toNat_lt
  apply UInt8.toNat_inj.mp
  unfold UInt8.ofInt Word.signed
  rw [UInt8.toNat_ofNat']
  split <;> omega

theorem wordBytes_ofBytes (h n : UInt8) : wordBytes (Word.ofBytes h n) = [n, h] := by
  rw [wordBytes, Word.low_ofBytes, Word.high_ofBytes]

theorem bytes_operand (o : Operand) : o.place.bytes = [] := by
  cases o <;> rfl

theorem bytes_pointer (p : Pointer) : p.place.bytes = [] := by
  cases p <;> rfl

end Assembly

open Assembly

/-! ### Instructions -/

set_option maxRecDepth 8000 in
theorem CbInstr.opcode_decode : ∀ n : UInt8,
    (decode n).bitOp.opcode (decode n).target.place = n := by
  decide

namespace Instr

theorem opcode_withOperands (n : UInt8) (nn : UInt16) (i : Instr) :
    (i.withOperands n nn).statement.opcode = i.statement.opcode := by
  cases i <;>
    simp only [withOperands, statement, Statement.opcode, loadOpcode, Address.loading,
      Address.storing]

set_option maxRecDepth 8000 in
theorem opcode_decode (op n : UInt8) (nn : UInt16) :
    (decode op n nn).statement.opcode = op := by
  -- The operands play no part, which leaves 256 opcodes to go through.
  have all : ∀ op, (decode op 0 0).statement.opcode = op := by decide
  rw [decode_eq_withOperands, opcode_withOperands, all]

theorem operands_withOperands (n h : UInt8) (i : Instr) :
    (i.withOperands n (Word.ofBytes h n)).statement.operands =
      if i = .stop then [] else [n, h].take (i.length - 1) := by
  cases i with
  | load target source =>
    show target.place.bytes ++ source.place.bytes = []
    rw [bytes_operand, bytes_operand]
    rfl
  | loadImm target => exact congrArg (· ++ [n]) (bytes_operand target)
  | loadFrom p => exact bytes_pointer p
  | storeTo p =>
    show p.place.bytes ++ [] = []
    rw [bytes_pointer]
    rfl
  | alu op source => exact bytes_operand source
  | loadAt | storeAt | loadPair | storeSp | jp | jpIf | call | callIf =>
    exact wordBytes_ofBytes h n
  | loadHlSp | addSp | jr | jrIf => exact congrArg ([·]) (ofInt_signed n)
  | cb => exact congrArg ([·]) (CbInstr.opcode_decode n)
  | _ => rfl

theorem decode_eq_stop_iff (op n : UInt8) (nn : UInt16) :
    decode op n nn = .stop ↔ op = 0x10 := by
  constructor
  · intro h
    rw [← opcode_decode op n nn, h]
    rfl
  · rintro rfl
    rfl

/-- The statement that bytes are decoded to assembles to these bytes. -/
theorem encode_decode (op n h : UInt8) :
    (decode op n (Word.ofBytes h n)).statement.encode =
      op :: if op = 0x10 then [] else [n, h].take (Opcode.length op - 1) := by
  unfold Statement.encode
  rw [opcode_decode, decode_eq_withOperands, operands_withOperands, length_decode]
  simp only [decode_eq_stop_iff]

end Instr

/-! ### Memory -/

namespace Memory

/-- The bytes that the mnemonic at an address shows: the opcode, and what stands behind it unless it
is that of `STOP`. -/
def shownBytes (m : Memory) (a : Nat) : List UInt8 :=
  let op := m.readOrZero a
  op :: if op = 0x10 then [] else (List.range' 1 (Opcode.length op - 1)).map (m.readOrZero <| a + ·)

theorem encode_instrAt (m : Memory) (a : Nat) :
    (m.instrAt a).statement.encode = m.shownBytes a := by
  unfold instrAt shownBytes
  simp only [Instr.encode_decode]
  have hpos := Opcode.length_pos (m.readOrZero a)
  have hle := Opcode.length_le (m.readOrZero a)
  have hlength : Opcode.length (m.readOrZero a) = 1 ∨ Opcode.length (m.readOrZero a) = 2 ∨
      Opcode.length (m.readOrZero a) = 3 := by omega
  rcases hlength with h | h | h <;> rw [h] <;> rfl

/-- Assembling what a disassembler shows gives back the bytes that it was shown for. -/
theorem assemble_disassemble (m : Memory) (a : Nat) :
    assemble (m.disassemble a).mnemonic = some (m.shownBytes a) := by
  show (Assembly.read (m.instrAt a).mnemonic).map Statement.encode = _
  rw [Instr.read_mnemonic, Option.map_some, encode_instrAt]

example : assemble "BIT 7,(HL)" = some [0xCB, 0x7E] := rfl

variable {m m' : Memory} {a a' : Nat}

theorem shownBytes_eq_iff :
    m.shownBytes a = m'.shownBytes a' ↔
      m.readOrZero a = m'.readOrZero a' ∧
        (m.readOrZero a ≠ 0x10 → ∀ k, 0 < k → k < Opcode.length (m.readOrZero a) →
          m.readOrZero (a + k) = m'.readOrZero (a' + k)) := by
  unfold shownBytes
  rw [List.cons.injEq]
  refine and_congr_right fun hop => ?_
  rw [← hop]
  by_cases hstop : m.readOrZero a = 0x10
  · simp [hstop]
  · have hmem (k : Nat) : k ∈ List.range' 1 (Opcode.length (m.readOrZero a) - 1) ↔
        0 < k ∧ k < Opcode.length (m.readOrZero a) := by
      rw [List.mem_range'_1]
      omega
    simp only [hstop, ↓reduceIte, List.map_inj_left, hmem, and_imp, ne_eq, not_false_eq_true,
      true_imp_iff]

/-- The bytes shown are all that an instruction consists of. -/
theorem instrAt_eq_of_shownBytes (h : m.shownBytes a = m'.shownBytes a') :
    m.instrAt a = m'.instrAt a' := by
  obtain ⟨hop, hoperands⟩ := shownBytes_eq_iff.mp h
  unfold instrAt
  rw [← hop]
  by_cases hstop : m.readOrZero a = 0x10
  · rw [hstop]
    rfl
  · have same := hoperands hstop
    apply Instr.decode_congr
    · exact same 1 Nat.one_pos
    · intro hlong
      rw [same 1 Nat.one_pos (by omega), same 2 Nat.two_pos hlong]

/-- Two instructions read alike if and only if they have the same opcode and the same bytes behind
it, as far as the instruction goes; the byte behind the opcode of `STOP` does not show. What reads
alike takes up as many bytes. -/
theorem mnemonic_eq_iff (m m' : Memory) (a a' : Nat) :
    ((m.disassemble a).mnemonic = (m'.disassemble a').mnemonic ↔
      m.readOrZero a = m'.readOrZero a' ∧
        (m.readOrZero a ≠ 0x10 → ∀ k, 0 < k → k < (m.disassemble a).length →
          m.readOrZero (a + k) = m'.readOrZero (a' + k))) ∧
    ((m.disassemble a).mnemonic = (m'.disassemble a').mnemonic →
      (m.disassemble a).length = (m'.disassemble a').length) := by
  have hiff : (m.disassemble a).mnemonic = (m'.disassemble a').mnemonic ↔
      m.shownBytes a = m'.shownBytes a' := by
    constructor
    · intro h
      have hbytes := m.assemble_disassemble a
      rw [h, assemble_disassemble] at hbytes
      exact (Option.some.inj hbytes).symm
    · intro h
      exact congrArg Instr.mnemonic (instrAt_eq_of_shownBytes h)
  rw [hiff, shownBytes_eq_iff]
  refine ⟨Iff.rfl, ?_⟩
  rintro ⟨hop, -⟩
  exact congrArg Opcode.length hop

end Memory

end Lr35902
