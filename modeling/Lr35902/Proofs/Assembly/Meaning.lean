import Lr35902.Machine
import Lr35902.Proofs.Assembly.Statement
import Lr35902.Proofs.Byte

/-!
# The meaning of statements

What a statement does to the machine, again on its own terms: sums and differences are those of
numbers, carries and borrows are those modulo 16 and 256, or 4096 and 65536 for words, and
rotations, shifts and logical operations are given bit by bit.
-/

namespace Lr35902

namespace Assembly

open Byte (bit withBit)

/-- Whether the sum of two numbers and a carry, modulo `n`, carries over. -/
def carries (n a b c : Nat) : Bool := decide (n ≤ a % n + b % n + c)

/-- Whether the difference of two numbers less a borrow, modulo `n`, falls below zero. -/
def borrows (n a b c : Nat) : Bool := decide (a % n < b % n + c)

/-- The number some way up or down from an address, modulo 2^16. -/
def displaced (w : UInt16) (offset : Int) : UInt16 := UInt16.ofInt (w.toNat + offset)

/-! ### Results and flags -/

def sum (a b : UInt8) (c : Bool) : UInt8 × Flags :=
  let r := UInt8.ofNat (a.toNat + b.toNat + c.toNat)
  (r,
    { zero := r == 0
      subtract := false
      halfCarry := carries 16 a.toNat b.toNat c.toNat
      carry := carries 256 a.toNat b.toNat c.toNat })

def difference (a b : UInt8) (c : Bool) : UInt8 × Flags :=
  let r := UInt8.ofInt (a.toNat - b.toNat - c.toNat)
  (r,
    { zero := r == 0
      subtract := true
      halfCarry := borrows 16 a.toNat b.toNat c.toNat
      carry := borrows 256 a.toNat b.toNat c.toNat })

def logic (op : Bool → Bool → Bool) (halfCarry : Bool) (a b : UInt8) : UInt8 × Flags :=
  let r := Byte.ofBits fun i => op (bit a i) (bit b i)
  (r, { zero := r == 0, subtract := false, halfCarry := halfCarry, carry := false })

/-- The accumulator and flags after an operation on accumulator `a` and byte `v`. -/
def arithmetic (f : Flags) (a v : UInt8) : AluOp → UInt8 × Flags
  | .add => sum a v false
  | .adc => sum a v f.carry
  | .sub => difference a v false
  | .sbc => difference a v f.carry
  | .and => logic Bool.and true a v
  | .xor => logic Bool.xor false a v
  | .or => logic Bool.or false a v
  | .cp => (a, (difference a v false).2)

/-- One more, with all flags but the carry. -/
def increment (f : Flags) (v : UInt8) : UInt8 × Flags :=
  let r := sum v 1 false
  (r.1, { r.2 with carry := f.carry })

def decrement (f : Flags) (v : UInt8) : UInt8 × Flags :=
  let r := difference v 1 false
  (r.1, { r.2 with carry := f.carry })

def wordSum (f : Flags) (a b : UInt16) : UInt16 × Flags :=
  (UInt16.ofNat (a.toNat + b.toNat),
    { f with
      subtract := false
      halfCarry := carries 4096 a.toNat b.toNat 0
      carry := carries 65536 a.toNat b.toNat 0 })

/-- A word plus an offset; the flags are those of adding their low bytes. -/
def offsetSum (w : UInt16) (offset : Int) : UInt16 × Flags :=
  let low := (offset % 256).toNat
  (displaced w offset,
    { zero := false
      subtract := false
      halfCarry := carries 16 w.toNat low 0
      carry := carries 256 w.toNat low 0 })

/-- The byte after a rotation or shift: where each bit comes from. -/
def shifted (carry : Bool) (v : UInt8) : ShiftOp → UInt8
  | .rlc => Byte.ofBits fun i => bit v (i - 1)
  | .rrc => Byte.ofBits fun i => bit v (i + 1)
  | .rl => Byte.ofBits fun i => if i = 0 then carry else bit v (i - 1)
  | .rr => Byte.ofBits fun i => if i = 7 then carry else bit v (i + 1)
  | .sla => Byte.ofBits fun i => if i = 0 then false else bit v (i - 1)
  | .sra => Byte.ofBits fun i => if i = 7 then bit v 7 else bit v (i + 1)
  | .swap => Byte.ofBits fun i => bit v (i + 4)
  | .srl => Byte.ofBits fun i => if i = 7 then false else bit v (i + 1)

/-- The bit a rotation or shift moves out of the byte. -/
def shiftedOut (v : UInt8) : ShiftOp → Bool
  | .rlc | .rl | .sla => bit v 7
  | .rrc | .rr | .sra | .srl => bit v 0
  | .swap => false

def shiftBits (f : Flags) (v : UInt8) (op : ShiftOp) : UInt8 × Flags :=
  let r := shifted f.carry v op
  (r, { zero := r == 0, subtract := false, halfCarry := false, carry := shiftedOut v op })

/-- Which of the two decimal digits need adjusting by six. -/
def adjustment (f : Flags) (v : UInt8) : Bool × Bool :=
  if f.subtract then (f.halfCarry, f.carry)
  else (f.halfCarry || decide (9 < v.toNat % 16), f.carry || decide (0x99 < v.toNat))

def decimalAdjust (f : Flags) (v : UInt8) : UInt8 × Flags :=
  let (low, high) := adjustment f v
  let amount : Int := (if low then 0x06 else 0) + (if high then 0x60 else 0)
  let r := UInt8.ofInt (if f.subtract then v.toNat - amount else v.toNat + amount)
  (r, { zero := r == 0, subtract := f.subtract, halfCarry := false, carry := high })

/-- Whether a condition is met; without one, it always is. -/
def met (f : Flags) : Option Condition → Bool
  | none => true
  | some .notZero => !f.zero
  | some .zero => f.zero
  | some .notCarry => !f.carry
  | some .carry => f.carry

def Address.locate (m : Machine) : Address → UInt16
  | .bc => m.regs.bc
  | .de => m.regs.de
  | .hl | .hlUp | .hlDown => m.regs.hl
  | .word nn => nn
  | .page n => 0xFF00 + n.toUInt16
  | .pageC => 0xFF00 + m.regs.c.toUInt16

/-- How far `HL` moves after an access. -/
def Address.stride : Address → Int
  | .hlUp => 1
  | .hlDown => -1
  | _ => 0

def Place.get (m : Machine) : Place → UInt8
  | .reg r => m.regs.get r
  | .mem a => m.mem.read (a.locate m)

def Place.put (m : Machine) (v : UInt8) : Place → Machine
  | .reg r => { m with regs := m.regs.set r v }
  | .mem a => { m with mem := m.mem.write (a.locate m) v }

def Place.stride : Place → Int
  | .reg _ => 0
  | .mem a => a.stride

def Source.get (m : Machine) : Source → UInt8
  | .place p => p.get m
  | .imm n => n

def Source.stride : Source → Int
  | .place p => p.stride
  | .imm _ => 0

/-! ### Statements -/

def flagged (m : Machine) (f : Flags) : Machine :=
  { m with regs := { m.regs with flags := f } }

def accumulated (m : Machine) (r : UInt8 × Flags) : Machine :=
  { m with regs := { m.regs with a := r.1, flags := r.2 } }

def paired (m : Machine) (pair : Reg16) (w : UInt16) : Machine :=
  { m with regs := m.regs.setPair pair w }

def jumped (m : Machine) (target : UInt16) : Machine :=
  { m with regs := { m.regs with pc := target } }

/-- The machine with a word on the stack, its low byte at the lower address. -/
def pushed (m : Machine) (w : UInt16) : Machine :=
  { m with
    regs := { m.regs with sp := m.regs.sp - 2 }
    mem := (m.mem.write (m.regs.sp - 1) (Word.high w)).write (m.regs.sp - 2) (Word.low w) }

/-- The word on the stack and the machine without it. -/
def popped (m : Machine) : UInt16 × Machine :=
  (Word.ofBytes (m.mem.read (m.regs.sp + 1)) (m.mem.read m.regs.sp),
    { m with regs := { m.regs with sp := m.regs.sp + 2 } })

def BitOp.effect (m : Machine) (p : Place) : BitOp → Machine
  | .shift op =>
    let r := shiftBits m.regs.flags (p.get m) op
    p.put (flagged m r.2) r.1
  | .test i =>
    flagged m { m.regs.flags with zero := !bit (p.get m) i, subtract := false, halfCarry := true }
  | .reset i => p.put m (withBit (p.get m) i false)
  | .set i => p.put m (withBit (p.get m) i true)

/-- What a statement does; the program counter stands behind it. -/
def Statement.effect (m : Machine) : Statement → Machine
  | .nop | .stop | .halt | .db _ => m
  | .di => { m with ime := false }
  | .ei => { m with ime := true }
  | .ld target source =>
    let loaded := target.put m (source.get m)
    paired loaded .hl (displaced loaded.regs.hl (target.stride + source.stride))
  | .ldWord pair nn => paired m pair nn
  | .ldSpHl => paired m .sp m.regs.hl
  | .ldHlSp offset =>
    let r := offsetSum m.regs.sp offset
    paired (flagged m r.2) .hl r.1
  | .storeSp nn =>
    { m with mem := (m.mem.write nn (Word.low m.regs.sp)).write (nn + 1) (Word.high m.regs.sp) }
  | .push pair => pushed m (m.regs.getPair pair)
  | .pop pair => paired (popped m).2 pair (popped m).1
  | .arith op source => accumulated m (arithmetic m.regs.flags m.regs.a (source.get m) op)
  | .inc p =>
    let r := increment m.regs.flags (p.get m)
    p.put (flagged m r.2) r.1
  | .dec p =>
    let r := decrement m.regs.flags (p.get m)
    p.put (flagged m r.2) r.1
  | .incWord pair => paired m pair (displaced (m.regs.getPair pair) 1)
  | .decWord pair => paired m pair (displaced (m.regs.getPair pair) (-1))
  | .addHl pair =>
    let r := wordSum m.regs.flags m.regs.hl (m.regs.getPair pair)
    paired (flagged m r.2) .hl r.1
  | .addSp offset =>
    let r := offsetSum m.regs.sp offset
    paired (flagged m r.2) .sp r.1
  | .rotate op =>
    let r := shiftBits m.regs.flags m.regs.a op
    accumulated m (r.1, { r.2 with zero := false })
  | .daa => accumulated m (decimalAdjust m.regs.flags m.regs.a)
  | .cpl =>
    accumulated m
      (Byte.ofBits fun i => !bit m.regs.a i,
        { m.regs.flags with subtract := true, halfCarry := true })
  | .scf => flagged m { m.regs.flags with subtract := false, halfCarry := false, carry := true }
  | .ccf =>
    flagged m
      { m.regs.flags with subtract := false, halfCarry := false, carry := !m.regs.flags.carry }
  | .jp cc nn => if met m.regs.flags cc then jumped m nn else m
  | .jpHl => jumped m m.regs.hl
  | .jr cc offset =>
    if met m.regs.flags cc then jumped m (displaced m.regs.pc offset) else m
  | .call cc nn => if met m.regs.flags cc then jumped (pushed m m.regs.pc) nn else m
  | .ret cc => if met m.regs.flags cc then jumped (popped m).2 (popped m).1 else m
  | .reti => { jumped (popped m).2 (popped m).1 with ime := true }
  | .rst target => jumped (pushed m m.regs.pc) target.toUInt16
  | .bits op p => op.effect m p

/-- What a statement at the program counter makes of the machine. -/
def Statement.meaning (s : Statement) (m : Machine) : Machine :=
  s.effect { m with regs := { m.regs with pc := displaced m.regs.pc s.size } }

end Assembly

end Lr35902
